import SecureRtp.Proofs.Replay.Window

namespace SecureRtp.Replay.Window

def sum64? (a b : UInt64) : Option UInt64 := if a.toNat + b.toNat < UInt64.size then some (a + b) else none

def difference64? (a b : UInt64) : Option UInt64 := if b ≤ a then some (a - b) else none

variable {w : Window} {a b h index : UInt64} {count : Nat}

theorem sum64?_of_lt (hab : a.toNat + b.toNat < UInt64.size) : sum64? a b = some (a + b) := if_pos hab

theorem difference64?_of_le (hab : b ≤ a) : difference64? a b = some (a - b) := if_pos hab

def slot? (w : Window) (index : UInt64) : Option (Fin w.size.toNat) :=
  if h : w.size ≠ 0 ∧ (index % w.size).toNat < w.size.toNat then some ⟨_, h.2⟩ else none

def checkedMark (w : Window) (index : UInt64) (seen : Bool) : Option Window := do
  let slot ← w.slot? index
  return { w with ring := w.ring.set slot seen slot.isLt }

def checkedAccepts (w : Window) (index : UInt64) : Option Bool :=
  match w.highest with
  | none => some true
  | some highest =>
    if index > highest then some true
    else do
      if (← difference64? highest index) ≥ w.size then return false
      return !w.ring.get (← w.slot? index)

def checkedForget (w : Window) (index : UInt64) : Nat → Option Window
  | 0 => some w
  | count + 1 => do
    let next ← sum64? index 1
    checkedForget (← w.checkedMark next false) next count

def checkedClear (w : Window) (highest gap : UInt64) : Option Window :=
  if gap ≥ w.size then some w.clear else w.checkedForget highest gap.toNat

def checkedInsert (w : Window) (index : UInt64) : Option Window :=
  match w.highest with
  | none => checkedMark { w.clear with highest := some index } index true
  | some highest =>
    if index > highest then do
      let cleared ← w.checkedClear highest (← difference64? index highest)
      checkedMark { cleared with highest := some index } index true
    else do
      if (← difference64? highest index) ≥ w.size then return w
      w.checkedMark index true

theorem slot?_eq (w : Window) (index : UInt64) : w.slot? index = some (w.slot index) := by
  have hpos := w.size_pos
  have hsize : w.size ≠ 0 := by
    intro h
    rw [h] at hpos
    exact Nat.lt_irrefl 0 hpos
  have hlt : (index % w.size).toNat < w.size.toNat := (w.slot index).isLt
  exact dif_pos ⟨hsize, hlt⟩

theorem checkedMark_eq (w : Window) (index : UInt64) (seen : Bool) :
    w.checkedMark index seen = some (w.mark index seen) := by
  rw [checkedMark, slot?_eq]
  rfl

theorem checkedAccepts_eq (w : Window) (index : UInt64) : w.checkedAccepts index = some (w.accepts index) := by
  unfold checkedAccepts accepts
  cases hw : w.highest with
  | none => rfl
  | some highest =>
    dsimp only
    by_cases hi : index > highest
    · rw [if_pos hi, if_pos hi]
    · have hle := UInt64.not_lt.mp hi
      rw [if_neg hi, if_neg hi, difference64?_of_le hle, slot?_eq]
      simp only [isOld, hw, hle, decide_true, Bool.true_and, decide_eq_true_eq]
      dsimp only [Option.bind_eq_bind, Option.bind_some]
      split <;> rfl

theorem checkedForget_eq (w : Window) (hc : index.toNat + count < UInt64.size) :
    w.checkedForget index count = some (w.forget index count) := by
  induction count generalizing w index with
  | zero => rfl
  | succ count ih =>
    have hnext := toNat_add_one hc
    rw [checkedForget, sum64?_of_lt (by rw [UInt64.toNat_one]; omega)]
    dsimp only [Option.bind_eq_bind, Option.bind_some]
    rw [checkedMark_eq]
    exact ih _ (by omega)

theorem checkedClear_eq (w : Window) (hi : h < index) : w.checkedClear h (index - h) =
    some (if index - h ≥ w.size then w.clear else w.forget h (index - h).toNat) := by
  have hgap : (index - h).toNat = index.toNat - h.toNat := UInt64.toNat_sub_of_le _ _ (UInt64.le_of_lt hi)
  have hlt := UInt64.lt_iff_toNat_lt.mp hi
  have hbound := index.toNat_lt
  unfold checkedClear
  split
  · rfl
  · apply checkedForget_eq
    rw [hgap]
    simp only [UInt64.size]
    omega

theorem checkedInsert_eq (w : Window) (index : UInt64) : w.checkedInsert index = some (w.insert index) := by
  unfold checkedInsert insert
  cases hw : w.highest with
  | none => simp [isOld, advance, hw, checkedMark_eq]
  | some highest =>
    dsimp only
    by_cases hi : index > highest
    · have hold : w.isOld index = false := by
        simpa [isOld, hw] using fun h => absurd hi (UInt64.not_lt.mpr h)
      rw [if_pos hi, hold, difference64?_of_le (UInt64.le_of_lt hi), advance, hw]
      dsimp only [Option.bind_eq_bind, Option.bind_some]
      rw [checkedClear_eq w hi, if_pos hi]
      exact checkedMark_eq _ _ _
    · have hle := UInt64.not_lt.mp hi
      rw [if_neg hi, difference64?_of_le hle, checkedMark_eq]
      simp only [isOld, hw, hle, decide_true, Bool.true_and, decide_eq_true_eq, advance, if_neg hi]
      dsimp only [Option.bind_eq_bind, Option.bind_some]
      split <;> rfl

end SecureRtp.Replay.Window
