/-!
Which packet indices of a stream were received: the highest one, and a ring of flags for those less than
`size` below it. Checking and recording are separate, so that only authentic packets are recorded.
-/
namespace SecureRtp.Replay

def maxSize : UInt64 := 0x8000

structure Window where
  size : UInt64
  size_pos : 0 < size.toNat
  highest : Option UInt64
  /-- The flag of index `i` stands at `i % size`. -/
  ring : Vector Bool size.toNat

namespace Window

def clamp (requested : UInt64) : UInt64 :=
  if requested < 1 then 1 else if requested > maxSize then maxSize else requested

theorem clamp_pos (requested : UInt64) : 0 < (clamp requested).toNat := by
  unfold clamp
  split
  · decide
  · split
    · decide
    · rename_i h _
      exact UInt64.le_iff_toNat_le.mp (UInt64.not_lt.mp h)

def empty (requested : UInt64) : Window :=
  ⟨clamp requested, clamp_pos requested, none, Vector.replicate _ false⟩

def slot (w : Window) (index : UInt64) : Fin w.size.toNat :=
  ⟨(index % w.size).toNat, by rw [UInt64.toNat_mod]; exact Nat.mod_lt _ w.size_pos⟩

def isOld (w : Window) (index : UInt64) : Bool :=
  match w.highest with
  | none => false
  | some highest => index ≤ highest && highest - index ≥ w.size

def isMarked (w : Window) (index : UInt64) : Bool := w.ring.get (w.slot index)

def accepts (w : Window) (index : UInt64) : Bool :=
  match w.highest with
  | none => true
  | some highest => if index > highest then true else if w.isOld index then false else !w.isMarked index

def mark (w : Window) (index : UInt64) (seen : Bool) : Window :=
  { w with ring := w.ring.set (w.slot index) seen (w.slot index).isLt }

def clear (w : Window) : Window := { w with ring := Vector.replicate _ false }

def forget (w : Window) (index : UInt64) : Nat → Window
  | 0 => w
  | count + 1 => (w.mark (index + 1) false).forget (index + 1) count

def advance (w : Window) (index : UInt64) : Window :=
  match w.highest with
  | none => { w.clear with highest := some index }
  | some highest =>
    if index > highest then
      let gap := index - highest
      { (if gap ≥ w.size then w.clear else w.forget highest gap.toNat) with highest := some index }
    else w

def insert (w : Window) (index : UInt64) : Window :=
  if w.isOld index then w else (w.advance index).mark index true

theorem isMarked_mark (w : Window) (i j : UInt64) (seen : Bool) :
    (w.mark i seen).isMarked j = if w.slot i = w.slot j then seen else w.isMarked j := by
  show (w.ring.set (w.slot i) seen (w.slot i).isLt)[w.slot j] = if w.slot i = w.slot j then seen else w.ring[w.slot j]
  simp [Fin.getElem_fin, Vector.getElem_set, Fin.ext_iff]

@[simp] theorem isMarked_clear (w : Window) (index : UInt64) : w.clear.isMarked index = false := by
  show (Vector.replicate w.size.toNat false)[w.slot index] = false
  simp

@[simp] theorem size_forget (w : Window) (index : UInt64) (count : Nat) : (w.forget index count).size = w.size := by
  induction count generalizing w index with
  | zero => rfl
  | succ n ih => exact ih _ _

@[simp] theorem size_advance (w : Window) (index : UInt64) : (w.advance index).size = w.size := by
  unfold advance
  split
  · rfl
  · split
    · dsimp only
      split
      · rfl
      · exact size_forget _ _ _
    · rfl

@[simp] theorem size_insert (w : Window) (index : UInt64) : (w.insert index).size = w.size := by
  unfold insert
  split
  · rfl
  · exact size_advance _ _

end Window

end SecureRtp.Replay
