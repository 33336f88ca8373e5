namespace SecureRtp

structure Position where
  roc : UInt32
  seq : UInt16
  deriving DecidableEq, Repr

namespace Position

def index (p : Position) : UInt64 := p.roc.toUInt64 * 0x10000 + p.seq.toUInt64

def next (last : Position) (seq : UInt16) : Position :=
  if seq.toNat + 0x8000 < last.seq.toNat then ⟨last.roc + 1, seq⟩ else ⟨last.roc, seq⟩

def roundBefore (roc : UInt32) : UInt32 := if roc = 0 then 0 else roc - 1

def estimate (highest : Position) (seq : UInt16) : Position :=
  if highest.seq.toNat + 0x8000 < seq.toNat then ⟨roundBefore highest.roc, seq⟩
  else if seq.toNat + 0x8000 < highest.seq.toNat then ⟨highest.roc + 1, seq⟩
  else ⟨highest.roc, seq⟩

theorem index_toNat (p : Position) : p.index.toNat = p.roc.toNat * 0x10000 + p.seq.toNat := by
  have hr := p.roc.toNat_lt
  have hs := p.seq.toNat_lt
  simp only [index, UInt64.toNat_add, UInt64.toNat_mul, UInt32.toNat_toUInt64, UInt16.toNat_toUInt64,
    UInt64.reduceToNat]
  omega

@[simp] theorem estimate_seq (highest : Position) (seq : UInt16) : (highest.estimate seq).seq = seq := by
  unfold estimate; split
  · rfl
  · split <;> rfl

end Position

end SecureRtp
