import SecureRtp.Replay.Window

namespace SecureRtp.Replay.Window

def Covers (w : Window) (highest i : UInt64) : Prop :=
  i.toNat ≤ highest.toNat ∧ highest.toNat < i.toNat + w.size.toNat

variable {w : Window} {known marked seen : List UInt64} {h i j : UInt64}

theorem slot_eq_iff (w : Window) (i j : UInt64) :
    w.slot i = w.slot j ↔ i.toNat % w.size.toNat = j.toNat % w.size.toNat := by
  simp [slot, Fin.ext_iff, UInt64.toNat_mod]

theorem mod_ne_of_close {n i j : Nat} (hij : i < j) (hji : j < i + n) : i % n ≠ j % n := by
  intro h
  have hd : n ∣ j - i := Nat.dvd_of_mod_eq_zero (Nat.sub_mod_eq_zero_of_mod_eq h.symm)
  have := Nat.eq_zero_of_dvd_of_lt hd (by omega)
  omega

theorem slot_inj (hi : w.Covers h i) (hj : w.Covers h j) :
    w.slot i = w.slot j ↔ i = j := by
  constructor
  case mpr => exact congrArg w.slot
  intro hs
  apply UInt64.toNat_inj.mp
  rw [slot_eq_iff] at hs
  obtain ⟨hi, hi'⟩ := hi
  obtain ⟨hj, hj'⟩ := hj
  rcases Nat.lt_trichotomy i.toNat j.toNat with hlt | heq | hlt
  · exact absurd hs (mod_ne_of_close hlt (by omega))
  · exact heq
  · exact absurd hs.symm (mod_ne_of_close hlt (by omega))

theorem isMarked_mark_of_covers (hi : w.Covers h i) (hj : w.Covers h j)
    (seen : Bool) : (w.mark i seen).isMarked j = if i = j then seen else w.isMarked j := by
  rw [isMarked_mark]
  simp only [slot_inj hi hj]

theorem isOld_iff (hw : w.highest = some h) (i : UInt64) :
    w.isOld i = true ↔ i.toNat + w.size.toNat ≤ h.toNat := by
  have hp := w.size_pos
  simp only [isOld, hw, Bool.and_eq_true, decide_eq_true_eq, UInt64.le_iff_toNat_le, ge_iff_le]
  constructor
  · rintro ⟨hi, hs⟩
    rw [UInt64.toNat_sub_of_le _ _ (UInt64.le_iff_toNat_le.mpr hi)] at hs
    omega
  · intro hs
    have hi : i.toNat ≤ h.toNat := by omega
    rw [UInt64.toNat_sub_of_le _ _ (UInt64.le_iff_toNat_le.mpr hi)]
    omega

theorem toNat_add_one {n : Nat} (h : i.toNat + (n + 1) < UInt64.size) : (i + 1).toNat = i.toNat + 1 := by
  rw [UInt64.toNat_add, UInt64.toNat_one, Nat.mod_eq_of_lt]
  simp only [UInt64.size] at h
  omega

theorem isMarked_forget_of_ne (w : Window) {index : UInt64} {count : Nat} (j : UInt64)
    (hc : index.toNat + count < UInt64.size)
    (hj : ∀ k, index.toNat < k → k ≤ index.toNat + count → k % w.size.toNat ≠ j.toNat % w.size.toNat) :
    (w.forget index count).isMarked j = w.isMarked j := by
  induction count generalizing w index with
  | zero => rfl
  | succ n ih =>
    have hn := toNat_add_one hc
    have hslot : ¬w.slot (index + 1) = w.slot j := by
      rw [slot_eq_iff, hn]
      exact hj _ (by omega) (by omega)
    have hc' : (index + 1).toNat + n < UInt64.size := by omega
    have hj' : ∀ k, (index + 1).toNat < k → k ≤ (index + 1).toNat + n →
        k % (w.mark (index + 1) false).size.toNat ≠ j.toNat % (w.mark (index + 1) false).size.toNat := by
      intro k hk hk'
      exact hj k (by omega) (by omega)
    rw [forget, ih (w.mark (index + 1) false) hc' hj', isMarked_mark, if_neg hslot]

theorem isMarked_forget_of_eq {index : UInt64} {count : Nat} (j : UInt64)
    (hc : index.toNat + count < UInt64.size) (hj : index.toNat < j.toNat)
    (hj' : j.toNat ≤ index.toNat + count) (hs : count ≤ w.size.toNat) :
    (w.forget index count).isMarked j = false := by
  induction count generalizing w index with
  | zero => omega
  | succ n ih =>
    have hn := toNat_add_one hc
    by_cases h : j.toNat = index.toNat + 1
    · have hje : index + 1 = j := UInt64.toNat_inj.mp (hn.trans h.symm)
      -- The first slot is cleared, and the later ones are others.
      rw [forget, isMarked_forget_of_ne _ j (by omega), isMarked_mark, hje, if_pos rfl]
      intro k hk hk'
      rw [h]
      exact (mod_ne_of_close (by omega) (by simp only [mark]; omega)).symm
    · exact ih (by omega) (by omega) (by omega) (by simp only [mark]; omega)

theorem highest_advance (hw : w.highest = some h) (i : UInt64) :
    (w.advance i).highest = some (if h.toNat < i.toNat then i else h) := by
  by_cases hi : h.toNat < i.toNat <;> simp [advance, hw, UInt64.lt_iff_toNat_lt, hi]

theorem isMarked_advance (hw : w.highest = some h) (hi : h.toNat < i.toNat)
    (hj : w.Covers i j) :
    (w.advance i).isMarked j = if j.toNat ≤ h.toNat then w.isMarked j else false := by
  have hgap : (i - h).toNat = i.toNat - h.toNat :=
    UInt64.toNat_sub_of_le _ _ (UInt64.le_iff_toNat_le.mpr (by omega))
  have hlt := i.toNat_lt
  obtain ⟨hji, hij⟩ := hj
  have he : (w.advance i).isMarked j =
      (if i - h ≥ w.size then w.clear else w.forget h (i - h).toNat).isMarked j := by
    simp only [advance, hw, gt_iff_lt, UInt64.lt_iff_toNat_lt, hi, if_true]
    rfl
  rw [he, hgap]
  simp only [ge_iff_le, UInt64.le_iff_toNat_le, hgap]
  by_cases hs : w.size.toNat ≤ i.toNat - h.toNat
  · rw [if_pos hs, if_neg (by omega), isMarked_clear]
  · rw [if_neg hs]
    by_cases hjh : j.toNat ≤ h.toNat
    · rw [if_pos hjh, isMarked_forget_of_ne _ j (by simp only [UInt64.size]; omega)]
      intro k hk hk'
      exact (mod_ne_of_close (by omega) (by omega)).symm
    · rw [if_neg hjh]
      exact isMarked_forget_of_eq j (by simp only [UInt64.size]; omega) (by omega) (by omega) (by omega)

structure Tracks (w : Window) (known marked : List UInt64) : Prop where
  nil_of_none : w.highest = none → known = []
  highest_mem : ∀ h, w.highest = some h → h ∈ known
  le_highest : ∀ h, w.highest = some h → ∀ i ∈ known, i.toNat ≤ h.toNat
  marked_iff : ∀ h, w.highest = some h → ∀ i, w.Covers h i → (w.isMarked i = true ↔ i ∈ marked)

def Remembers (w : Window) (seen : List UInt64) : Prop := w.Tracks seen seen

theorem remembers_empty (requested : UInt64) : (empty requested).Remembers [] :=
  ⟨fun _ => rfl, nofun, nofun, nofun⟩

theorem Tracks.of_highest (hw : w.highest = some h)
    (hmem : h ∈ known) (hle : ∀ i ∈ known, i.toNat ≤ h.toNat)
    (hmarked : ∀ i, w.Covers h i → (w.isMarked i = true ↔ i ∈ marked)) : w.Tracks known marked := by
  constructor
  · intro hn
    cases hw.symm.trans hn
  all_goals
    intro h' hw'
    cases hw.symm.trans hw'
    assumption

theorem Tracks.mark (ht : w.Tracks known seen)
    (hw : w.highest = some h) (hi : w.Covers h i) : (w.mark i true).Tracks known (i :: seen) := by
  have hh : (w.mark i true).highest = some h := hw
  apply Tracks.of_highest hh (ht.highest_mem h hw) (ht.le_highest h hw)
  intro j hj
  rw [isMarked_mark_of_covers hi hj, List.mem_cons, ← ht.marked_iff h hw j hj]
  by_cases hij : i = j
  · simp [hij]
  · have hne : j ≠ i := fun he => hij he.symm
    simp [hij, hne]

theorem Remembers.advance (hr : w.Remembers seen) (i : UInt64) :
    (w.advance i).Tracks (i :: seen) seen := by
  cases hw : w.highest with
  | none =>
    have hh : (w.advance i).highest = some i := by simp [Window.advance, hw]
    have hc (j : UInt64) : (w.advance i).isMarked j = false := by
      rw [← isMarked_clear w j]
      simp only [Window.advance, hw]
      rfl
    rw [hr.nil_of_none hw]
    apply Tracks.of_highest hh List.mem_cons_self
    · intro j hj
      exact Nat.le_of_eq (congrArg UInt64.toNat (List.mem_singleton.mp hj))
    · intro j _
      simp [hc]
  | some h =>
    have hle := hr.le_highest h hw
    by_cases hlt : h.toNat < i.toNat
    · have hh : (w.advance i).highest = some i := by rw [highest_advance hw, if_pos hlt]
      apply Tracks.of_highest hh List.mem_cons_self
      · intro j hj
        rcases List.mem_cons.mp hj with rfl | hj
        · exact Nat.le_refl _
        · exact Nat.le_trans (hle j hj) (Nat.le_of_lt hlt)
      · intro j hj
        have hj : w.Covers i j := by simpa only [Covers, size_advance] using hj
        rw [isMarked_advance hw hlt hj]
        by_cases hjh : j.toNat ≤ h.toNat
        · rw [if_pos hjh, hr.marked_iff h hw j ⟨hjh, by have := hj.2; omega⟩]
        · rw [if_neg hjh]
          exact iff_of_false (by simp) fun hs => hjh (hle j hs)
    · have he : w.advance i = w := by simp [Window.advance, hw, UInt64.lt_iff_toNat_lt, hlt]
      rw [he]
      apply Tracks.of_highest hw (List.mem_cons_of_mem _ (hr.highest_mem h hw)) _ (hr.marked_iff h hw)
      exact List.forall_mem_cons.mpr ⟨by omega, hle⟩

theorem Remembers.cons_old (hr : w.Remembers seen)
    (hw : w.highest = some h) (hi : i.toNat + w.size.toNat ≤ h.toNat) : w.Remembers (i :: seen) := by
  apply Tracks.of_highest hw (List.mem_cons_of_mem _ (hr.highest_mem h hw))
  · exact List.forall_mem_cons.mpr ⟨by omega, hr.le_highest h hw⟩
  · intro j hj
    have hne : j ≠ i := by
      rintro rfl
      have := hj.2
      omega
    rw [hr.marked_iff h hw j hj]
    simp [hne]

theorem Remembers.insert (hr : w.Remembers seen) (i : UInt64) :
    (w.insert i).Remembers (i :: seen) := by
  cases hold : w.isOld i with
  | true =>
    rw [show w.insert i = w by simp [Window.insert, hold]]
    cases hw : w.highest with
    | none => simp [isOld, hw] at hold
    | some h => exact hr.cons_old hw ((isOld_iff hw i).mp hold)
  | false =>
    have ht := hr.advance i
    have hp := w.size_pos
    rw [show w.insert i = (w.advance i).mark i true by simp [Window.insert, hold]]
    cases hw : w.highest with
    | none =>
      have hh : (w.advance i).highest = some i := by simp [Window.advance, hw]
      apply ht.mark hh
      constructor
      · exact Nat.le_refl _
      · rw [size_advance]
        omega
    | some h =>
      have hnew := mt (isOld_iff hw i).mpr (by simp [hold])
      apply ht.mark (highest_advance hw i)
      constructor
      · split <;> omega
      · rw [size_advance]
        split <;> omega

theorem Remembers.accepts_iff (hr : w.Remembers seen) (i : UInt64) :
    w.accepts i = true ↔ i ∉ seen ∧ ∀ j ∈ seen, j.toNat < i.toNat + w.size.toNat := by
  have hp := w.size_pos
  cases hw : w.highest with
  | none => simp [accepts, hw, hr.nil_of_none hw]
  | some h =>
    have hle := hr.le_highest h hw
    have hmem := hr.highest_mem h hw
    simp only [accepts, hw, gt_iff_lt, UInt64.lt_iff_toNat_lt]
    by_cases hi : h.toNat < i.toNat
    · rw [if_pos hi]
      apply iff_of_true rfl
      constructor
      · intro hs
        have := hle i hs
        omega
      · intro j hj
        have := hle j hj
        omega
    · rw [if_neg hi]
      by_cases hold : w.isOld i = true
      · have := (isOld_iff hw i).mp hold
        apply iff_of_false (by simp [hold])
        intro hs
        have := hs.2 h hmem
        omega
      · have hnew := mt (isOld_iff hw i).mpr hold
        have hc : w.Covers h i := ⟨by omega, by omega⟩
        have hm := hr.marked_iff h hw i hc
        simp only [hold, Bool.false_eq_true, if_false, Bool.not_eq_true', ← Bool.not_eq_true, hm]
        apply (and_iff_left _).symm
        intro j hj
        have := hle j hj
        omega

theorem Remembers.of_refused (hr : w.Remembers seen) (hi : w.accepts i = false) : w.Remembers (i :: seen) := by
  have hn : ¬(i ∉ seen ∧ ∀ j ∈ seen, j.toNat < i.toNat + w.size.toNat) :=
    fun h => by simp [(hr.accepts_iff i).mpr h] at hi
  by_cases hs : i ∈ seen
  · cases hw : w.highest with
    | none => exact absurd (hr.nil_of_none hw) (List.ne_nil_of_mem hs)
    | some h =>
      apply Tracks.of_highest hw (List.mem_cons_of_mem _ (hr.highest_mem h hw))
      · exact List.forall_mem_cons.mpr ⟨hr.le_highest h hw i hs, hr.le_highest h hw⟩
      · intro j hj
        rw [hr.marked_iff h hw j hj, List.mem_cons]
        constructor
        · exact .inr
        · rintro (rfl | hj)
          · exact hs
          · exact hj
  · obtain ⟨j, hj, hij⟩ : ∃ j ∈ seen, ¬j.toNat < i.toNat + w.size.toNat := by
      simpa [hs] using hn
    cases hw : w.highest with
    | none => simp [hr.nil_of_none hw] at hj
    | some h =>
      have := hr.le_highest h hw j hj
      exact hr.cons_old hw (by omega)

end SecureRtp.Replay.Window
