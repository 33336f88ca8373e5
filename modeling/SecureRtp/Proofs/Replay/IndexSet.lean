import SecureRtp.Proofs.Replay.Checked

namespace SecureRtp.Replay

instance lawfulOrderMax : Std.LawfulOrderMax UInt64 where
  max_le_iff a b c := by
    change (if a ≤ b then b else a) ≤ c ↔ _
    split <;> simp only [UInt64.le_iff_toNat_le] at * <;> omega
  max_eq_or a b := by
    change (if a ≤ b then b else a) = a ∨ (if a ≤ b then b else a) = b
    split <;> simp

inductive Request where
  | check (index : UInt64)
  | update (index : UInt64)

structure Answer where
  fresh? : Option Bool
  highest : Option UInt64

/-- The indices that are recorded by some requests, which are listed with the latest first. -/
def recorded : List Request → List UInt64
  | [] => []
  | .check _ :: past => recorded past
  | .update index :: past => index :: recorded past

namespace IndexSet

variable (size : Nat) (seen : List UInt64)

def isFresh (index : UInt64) : Bool :=
  match seen.max? with
  | none => true
  | some highest => highest < index ∨ highest.toNat - index.toNat < size ∧ index ∉ seen

def answer : Request → Answer
  | .check index => ⟨some (isFresh size seen index), seen.max?⟩
  | .update index => ⟨none, (index :: seen).max?⟩

def answers : List Request → List Answer
  | [] => []
  | request :: past => answer size (recorded past ++ seen) request :: answers past

variable {size seen} {other : List UInt64}

theorem max?_eq_of_mem_iff (h : ∀ i, i ∈ seen ↔ i ∈ other) : seen.max? = other.max? := by
  apply Option.ext
  intro highest
  simp only [List.max?_eq_some_iff, h]

theorem answer_eq_of_mem_iff (h : ∀ i, i ∈ seen ↔ i ∈ other) (request : Request) :
    answer size seen request = answer size other request := by
  cases request with
  | check index => simp only [answer, isFresh, max?_eq_of_mem_iff h, h]
  | update index =>
    rw [answer, answer, max?_eq_of_mem_iff]
    simp only [List.mem_cons, h, implies_true]

theorem answers_eq_of_mem_iff (h : ∀ i, i ∈ seen ↔ i ∈ other) (requests : List Request) :
    answers size seen requests = answers size other requests := by
  induction requests with
  | nil => rfl
  | cons request past ih =>
    rw [answers, answers, ih, answer_eq_of_mem_iff]
    simp only [List.mem_append, h, implies_true]

end IndexSet

namespace Window

open IndexSet

variable {w : Window} {seen : List UInt64}

def perform? (w : Window) : Request → Option (Window × Answer)
  | .check index => do
    let fresh ← w.checkedAccepts index
    return (w, ⟨some fresh, w.highest⟩)
  | .update index => do
    let next ← w.checkedInsert index
    return (next, ⟨none, next.highest⟩)

def run? (w : Window) : List Request → Option (Window × List Answer)
  | [] => some (w, [])
  | request :: past => do
    let (now, answers) ← w.run? past
    let (next, answer) ← now.perform? request
    return (next, answer :: answers)

theorem toNat_clamp (requested : UInt64) : (clamp requested).toNat = max 1 (min requested.toNat 0x8000) := by
  have hmax : maxSize.toNat = 0x8000 := rfl
  unfold clamp
  simp only [gt_iff_lt, UInt64.lt_iff_toNat_lt, UInt64.toNat_one, hmax]
  split
  · rw [UInt64.toNat_one]
    omega
  · split
    · rw [hmax]
      omega
    · omega

theorem Remembers.highest_eq (hr : w.Remembers seen) : w.highest = seen.max? := by
  cases hw : w.highest with
  | none => rw [hr.nil_of_none hw, List.max?_nil]
  | some highest =>
    symm
    rw [List.max?_eq_some_iff]
    refine ⟨hr.highest_mem highest hw, ?_⟩
    intro i hi
    exact UInt64.le_iff_toNat_le.mpr (hr.le_highest highest hw i hi)

theorem Remembers.accepts_eq (hr : w.Remembers seen) (index : UInt64) :
    w.accepts index = isFresh w.size.toNat seen index := by
  have hpos := w.size_pos
  rw [Bool.eq_iff_iff, hr.accepts_iff, isFresh, ← hr.highest_eq]
  cases hw : w.highest with
  | none => simp [hr.nil_of_none hw]
  | some highest =>
    have hmem := hr.highest_mem highest hw
    have hle := hr.le_highest highest hw
    simp only [decide_eq_true_eq, UInt64.lt_iff_toNat_lt]
    constructor
    · rintro ⟨hnew, hnear⟩
      have := hnear highest hmem
      by_cases hi : highest.toNat < index.toNat
      · exact .inl hi
      · exact .inr ⟨by omega, hnew⟩
    · rintro (hi | ⟨hnear, hnew⟩)
      -- What is above the highest index is neither recorded nor too old.
      · constructor
        · intro hseen
          exact absurd (hle index hseen) (Nat.not_le.mpr hi)
        · intro j hj
          have := hle j hj
          omega
      · refine ⟨hnew, ?_⟩
        intro j hj
        have := hle j hj
        omega

theorem Remembers.perform? (hr : w.Remembers seen) (request : Request) :
    ∃ next, w.perform? request = some (next, answer w.size.toNat seen request) ∧
      next.Remembers (recorded [request] ++ seen) ∧ next.size = w.size := by
  cases request with
  | check index =>
    refine ⟨w, ?_, hr, rfl⟩
    rw [Window.perform?, checkedAccepts_eq, hr.accepts_eq, hr.highest_eq]
    rfl
  | update index =>
    refine ⟨w.insert index, ?_, hr.insert index, size_insert w index⟩
    rw [Window.perform?, checkedInsert_eq]
    dsimp only [Option.bind_eq_bind, Option.bind_some]
    rw [(hr.insert index).highest_eq]
    rfl

theorem Remembers.run? (hr : w.Remembers seen) (requests : List Request) :
    ∃ last, w.run? requests = some (last, answers w.size.toNat seen requests) ∧
      last.Remembers (recorded requests ++ seen) ∧ last.size = w.size := by
  induction requests with
  | nil => exact ⟨w, rfl, hr, rfl⟩
  | cons request past ih =>
    obtain ⟨now, hrun, hnow, hsize⟩ := ih
    obtain ⟨next, hstep, hnext, hsame⟩ := hnow.perform? request
    refine ⟨next, ?_, ?_, hsame.trans hsize⟩
    · rw [Window.run?, hrun]
      dsimp only [Option.bind_eq_bind, Option.bind_some]
      rw [hstep, hsize]
      rfl
    · cases request <;> exact hnext

/-- Every run of requests is answered without a fault, as the set of the recorded indices answers it; and any other run
that records the same set leaves a window that answers alike from then on. -/
theorem implements_index_set (requested : UInt64) (requests : List Request) :
    let size := max 1 (min requested.toNat 0x8000)
    let seen := recorded requests
    ∃ w, (empty requested).run? requests = some (w, answers size [] requests) ∧ w.highest = seen.max? ∧
      (∀ index, w.perform? (.check index) = some (w, ⟨some (isFresh size seen index), w.highest⟩)) ∧
      ∀ others v given, (empty requested).run? others = some (v, given) →
        (∀ i, i ∈ recorded others ↔ i ∈ seen) →
          ∀ later, (v.run? later).map (·.2) = some (answers size seen later) := by
  intro size seen
  have hrun (requests : List Request) :
      ∃ w, (empty requested).run? requests = some (w, answers size [] requests) ∧
        w.Remembers (recorded requests) ∧ w.size.toNat = size := by
    obtain ⟨w, hw, hr, hs⟩ := (remembers_empty requested).run? requests
    have hsize : (empty requested).size.toNat = size := toNat_clamp requested
    rw [hsize] at hw
    rw [List.append_nil] at hr
    exact ⟨w, hw, hr, hs ▸ hsize⟩
  obtain ⟨w, hw, hr, hsize⟩ := hrun requests
  refine ⟨w, hw, hr.highest_eq, ?_, ?_⟩
  · intro index
    rw [perform?, checkedAccepts_eq, hr.accepts_eq, hsize]
    rfl
  · intro others v given hv hsame later
    obtain ⟨now, hnow, hremembers, hsize⟩ := hrun others
    cases hnow.symm.trans hv
    obtain ⟨last, hlast, -⟩ := hremembers.run? later
    rw [hlast, hsize, answers_eq_of_mem_iff hsame]
    rfl

end Window

end SecureRtp.Replay
