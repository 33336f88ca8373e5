import SecureRtp.Proofs.Cipher.Keystream

namespace SecureRtp

def encipher (key : Aes.Key) (blocks : List Block) : Bytes := blocks.flatMap fun b => (Aes.encrypt key b).toBytes

namespace CounterMode

def blocks (iv : Block) (length : Nat) : List Block := (List.range (groupCount 16 length)).map (counterBlock iv)

theorem keystream_eq_encipher (key : Aes.Key) (iv : Block) (length : Nat) :
    keystream key iv length = (encipher key (blocks iv length)).take length := by
  rw [keystream, encipher, blocks, List.flatMap_map]

theorem crypt_eq_encipher {bytes : Bytes} {key : Aes.Key} (hk : Aes.Key.ofBytes? bytes = some key) (iv : Block)
    (data : Bytes) :
    crypt bytes iv data = xorBytes data ((encipher key (blocks iv data.length)).take data.length) := by
  simp only [crypt, hk, apply, keystream_eq_encipher]

theorem crypt_zeros {bytes : Bytes} {key : Aes.Key} (hk : Aes.Key.ofBytes? bytes = some key) (iv : Block)
    (length : Nat) : crypt bytes iv (zeros length) = keystream key iv length := by
  simp only [crypt, hk, apply, length_zeros]
  exact xorBytes_zeros (length_keystream key iv length)

section

variable {iv iv' : Block} {i j m n : Nat}

theorem toNat_counterBlock (hiv : iv.toNat % 0x10000 = 0) (hi : i < 0x10000) :
    (counterBlock iv i).toNat = iv.toNat + i := by
  have hlt := iv.isLt
  rw [counterBlock, BitVec.toNat_add, BitVec.toNat_ofNat]
  omega

theorem eq_of_counterBlock_eq (hiv : iv.toNat % 0x10000 = 0) (hiv' : iv'.toNat % 0x10000 = 0) (hi : i < 0x10000)
    (hj : j < 0x10000) (h : counterBlock iv i = counterBlock iv' j) : iv = iv' := by
  have hn := congrArg BitVec.toNat h
  rw [toNat_counterBlock hiv hi, toNat_counterBlock hiv' hj] at hn
  apply BitVec.eq_of_toNat_eq
  omega

theorem exists_of_mem_blocks (hn : n ≤ 0x100000) {b : Block} (hb : b ∈ blocks iv n) :
    ∃ i < 0x10000, b = counterBlock iv i := by
  obtain ⟨i, hi, rfl⟩ := List.mem_map.mp hb
  rw [List.mem_range, groupCount] at hi
  exact ⟨i, by omega, rfl⟩

theorem blocks_disjoint (hiv : iv.toNat % 0x10000 = 0) (hiv' : iv'.toNat % 0x10000 = 0) (hne : iv ≠ iv')
    (hm : m ≤ 0x100000) (hn : n ≤ 0x100000) : ∀ b ∈ blocks iv m, b ∉ blocks iv' n := by
  intro b hb hb'
  obtain ⟨i, hi, rfl⟩ := exists_of_mem_blocks hm hb
  obtain ⟨j, hj, heq⟩ := exists_of_mem_blocks hn hb'
  exact hne (eq_of_counterBlock_eq hiv hiv' hi hj heq)

end

end CounterMode

namespace Galois

def textBlocks (nonce : Nonce) (length : Nat) : List Block :=
  (List.range (groupCount 16 length)).map fun i => counterBlock nonce (i + 2)

theorem keystream_eq_encipher (key : Aes.Key) (nonce : Nonce) (length : Nat) :
    keystream key nonce length = (encipher key (textBlocks nonce length)).take length := by
  rw [keystream, encipher, textBlocks, List.flatMap_map]

end Galois

end SecureRtp
