import SecureRtp.Session.Position

namespace SecureRtp.Position

variable {p q : Position} {seq : UInt16} {n : Nat}

theorem toNat_index_mk (roc : UInt32) (seq : UInt16) :
    (mk roc seq).index.toNat = roc.toNat * 0x10000 + seq.toNat := index_toNat _

theorem roc_index (p : Position) : (p.index >>> 16).toUInt32 = p.roc := by
  have hs := p.seq.toNat_lt
  have hr := p.roc.toNat_lt
  have hshift : (p.index >>> 16).toNat = p.index.toNat / 0x10000 := by
    rw [UInt64.toNat_shiftRight, Nat.shiftRight_eq_div_pow]
    rfl
  apply UInt32.toNat_inj.mp
  rw [UInt64.toNat_toUInt32, hshift, index_toNat]
  omega

theorem seq_index (p : Position) : p.index.toUInt16 = p.seq := by
  have hs := p.seq.toNat_lt
  apply UInt16.toNat_inj.mp
  rw [UInt64.toNat_toUInt16, index_toNat]
  omega

theorem index_inj : p.index = q.index ↔ p = q := by
  constructor
  case mpr => exact congrArg _
  intro h
  have hp := p.seq.toNat_lt
  have hq := q.seq.toNat_lt
  have hi := congrArg UInt64.toNat h
  rw [index_toNat, index_toNat] at hi
  have hroc : p.roc = q.roc := UInt32.toNat_inj.mp (by omega)
  have hseq : p.seq = q.seq := UInt16.toNat_inj.mp (by omega)
  calc p = ⟨p.roc, p.seq⟩ := rfl
    _ = q := by rw [hroc, hseq]

theorem toNat_roundBefore (roc : UInt32) : (roundBefore roc).toNat = roc.toNat - 1 := by
  unfold roundBefore
  split
  · rename_i hzero
    rw [hzero]
    rfl
  · rename_i hpos
    have hle : 1 ≤ roc := by
      rw [UInt32.le_iff_toNat_le, UInt32.toNat_one]
      have := mt UInt32.toNat_inj.mp hpos
      rw [UInt32.toNat_zero] at this
      omega
    rw [UInt32.toNat_sub_of_le _ _ hle, UInt32.toNat_one]

theorem toNat_roc_estimate (p : Position) (seq : UInt16) :
    (p.estimate seq).roc.toNat =
      if p.seq.toNat + 0x8000 < seq.toNat then p.roc.toNat - 1
      else if seq.toNat + 0x8000 < p.seq.toNat then (p.roc.toNat + 1) % 0x100000000
      else p.roc.toNat := by
  unfold estimate
  split
  · exact toNat_roundBefore p.roc
  · split
    · exact UInt32.toNat_add p.roc 1
    · rfl

section

variable (hn : n < 0x1000000000000) (hs : seq.toNat = n % 0x10000)
  (hlo : p.index.toNat < n + 0x8000) (hhi : n < p.index.toNat + 0x8000)

include hn hs hlo hhi

theorem toNat_index_estimate : (p.estimate seq).index.toNat = n := by
  have hp := p.seq.toNat_lt
  have hr := p.roc.toNat_lt
  rw [index_toNat] at hlo hhi
  rw [index_toNat, estimate_seq, toNat_roc_estimate]
  -- A number behind lies in the round before, so there is one.
  split
  · omega
  · split <;> omega

theorem toNat_index_next :
    (p.next seq).index.toNat = if n / 0x10000 < p.index.toNat / 0x10000 then n + 0x10000 else n := by
  have hp := p.seq.toNat_lt
  have hr := p.roc.toNat_lt
  rw [p.index_toNat] at hlo hhi ⊢
  unfold next
  by_cases hwrap : seq.toNat + 0x8000 < p.seq.toNat
  · rw [if_pos hwrap, toNat_index_mk, UInt32.toNat_add, UInt32.toNat_one, if_neg (by omega)]
    omega
  · rw [if_neg hwrap, toNat_index_mk]
    split <;> omega

end

def distance (p : Position) (n : Nat) : Nat := ((n : Int) - p.index.toNat).natAbs

theorem distance_lt_iff {d : Nat} :
    p.distance n < d ↔ p.index.toNat < n + d ∧ n < p.index.toNat + d := by
  unfold distance
  omega

theorem distance_le_iff {d : Nat} :
    p.distance n ≤ d ↔ p.index.toNat ≤ n + d ∧ n ≤ p.index.toNat + d := by
  unfold distance
  omega

-- A number that lies half a round away is not taken for a wrap, so that the bound is reached.
theorem distance_estimate_le (hfirst : 0 < p.roc) (hlast : p.roc < 0xffffffff) (seq : UInt16) :
    p.distance (p.estimate seq).index.toNat ≤ 0x8000 := by
  have hp := p.seq.toNat_lt
  have hs := seq.toNat_lt
  have hlo : 0 < p.roc.toNat := UInt32.lt_iff_toNat_lt.mp hfirst
  have hhi : p.roc.toNat < 0xffffffff := UInt32.lt_iff_toNat_lt.mp hlast
  rw [distance_le_iff, index_toNat, index_toNat, estimate_seq, toNat_roc_estimate]
  split
  · omega
  · split <;> omega

theorem distance_estimate_le_distance (hfirst : 0 < p.roc) (hlast : p.roc < 0xffffffff)
    (hs : n % 0x10000 = seq.toNat) : p.distance (p.estimate seq).index.toNat ≤ p.distance n := by
  have hle := distance_estimate_le hfirst hlast seq
  by_cases heq : n = (p.estimate seq).index.toNat
  · exact Nat.le_of_eq (congrArg p.distance heq.symm)
  · have hmod : (p.estimate seq).index.toNat % 0x10000 = seq.toNat := by
      have hlt := seq.toNat_lt
      rw [index_toNat, estimate_seq]
      omega
    unfold distance at hle ⊢
    omega

/-- Every index less than half a round from the highest one is found. Between the first round and the last one the
estimate is at most half a round off, and no index with its number is closer. -/
theorem estimate_exact_within_half_round (p : Position) :
    (∀ n < 0x1000000000000, p.distance n < 0x8000 →
        (p.estimate (UInt16.ofNat n)).roc.toNat = n / 0x10000 ∧
          (p.estimate (UInt16.ofNat n)).index.toNat = n) ∧
      (0 < p.roc → p.roc < 0xffffffff → ∀ seq : UInt16,
        p.distance (p.estimate seq).index.toNat ≤ 0x8000 ∧
          ∀ n, n % 0x10000 = seq.toNat → p.distance (p.estimate seq).index.toNat ≤ p.distance n) := by
  constructor
  · intro n hn hnear
    obtain ⟨hlo, hhi⟩ := distance_lt_iff.mp hnear
    have hs : (UInt16.ofNat n).toNat = n % 0x10000 := UInt16.toNat_ofNat'
    have hindex := toNat_index_estimate hn hs hlo hhi
    refine ⟨?_, hindex⟩
    rw [index_toNat, estimate_seq, hs] at hindex
    omega
  · intro hfirst hlast seq
    exact ⟨distance_estimate_le hfirst hlast seq, fun n => distance_estimate_le_distance hfirst hlast⟩

theorem estimate_exact_around_wrap :
    (65530 < 0x1000000000000 ∧ (mk 1 10).distance 65530 < 0x8000 ∧
        ((mk 1 10).estimate (UInt16.ofNat 65530)).roc.toNat = 0 ∧
        ((mk 1 10).estimate (UInt16.ofNat 65530)).index.toNat = 65530) ∧
      (0 < (mk 1 10).roc ∧ (mk 1 10).roc < 0xffffffff ∧
        (mk 1 10).distance ((mk 1 10).estimate 0x800a).index.toNat ≤ 0x8000) := by
  have hnear : (mk 1 10).distance 65530 < 0x8000 := by decide
  obtain ⟨hfound, hclose⟩ := estimate_exact_within_half_round (mk 1 10)
  refine ⟨⟨by decide, hnear, hfound 65530 (by decide) hnear⟩, by decide, by decide, ?_⟩
  exact (hclose (by decide) (by decide) 0x800a).1

-- In the first round there is none before it, so that a number that looks late is taken for one far ahead.
example : (mk 0 10).distance ((mk 0 10).estimate 65530).index.toNat = 65520 := by decide

end SecureRtp.Position
