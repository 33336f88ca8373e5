import SecureRtp.Session.Nonce

namespace SecureRtp

theorem beNat_append_zeros (a : Bytes) : beNat (a ++ [0, 0]) = 0x10000 * beNat a := by
  simp only [beNat, List.foldl_append, List.foldl_cons, List.foldl_nil, UInt8.toNat_zero]
  omega

namespace Nonce

variable {salt : Bytes} {ssrc ssrc' roc roc' : UInt32} {seq seq' : UInt16} {index index' : UInt64}

theorem toNat_salt (salt : Bytes) : (Block.ofBytes (salt.take 14)).toNat % 0x10000 = 0 := by
  have hpad : (salt.take 14).rightpad 16 0 = (salt.take 14).rightpad 14 0 ++ [0, 0] := by
    have hlen : (salt.take 14).length ≤ 14 := by
      rw [List.length_take]
      omega
    obtain ⟨k, hk⟩ : ∃ k, 14 - (salt.take 14).length = k ∧ 16 - (salt.take 14).length = k + 2 := ⟨_, rfl, by omega⟩
    rw [List.rightpad, List.rightpad, hk.1, hk.2, List.append_assoc]
    congr 1
    exact List.replicate_append_replicate.symm
  rw [Block.ofBytes, hpad, beNat_append_zeros, BitVec.toNat_ofNat]
  omega

theorem toNat_counterMode (salt : Bytes) (ssrc : UInt32) (index : UInt64) :
    (counterMode salt ssrc index).toNat % 0x10000 = 0 := by
  have hsalt := toNat_salt salt
  have hssrc : (ssrc.toBitVec.setWidth 128 <<< 64).toNat % 0x10000 = 0 := by
    rw [BitVec.toNat_shiftLeft, Nat.shiftLeft_eq]
    omega
  have hindex : ((index.toBitVec.setWidth 48).setWidth 128 <<< 16).toNat % 0x10000 = 0 := by
    rw [BitVec.toNat_shiftLeft, Nat.shiftLeft_eq]
    omega
  have hmod (x y : Nat) : (x ^^^ y) % 0x10000 = x % 0x10000 ^^^ y % 0x10000 := Nat.xor_mod_two_pow (n := 16)
  rw [counterMode, BitVec.toNat_xor, BitVec.toNat_xor, hmod, hmod, hsalt, hssrc, hindex]
  rfl

def field {w : Nat} (m start : Nat) (x : BitVec w) : BitVec m := x.setWidth m <<< start

section

variable {w m start : Nat}

theorem getLsbD_field (h : start + w ≤ m) (x : BitVec w) (k : Nat) :
    (field m start x).getLsbD (start + k) = x.getLsbD k := by
  rw [field, BitVec.getLsbD_shiftLeft, BitVec.getLsbD_setWidth, Nat.add_sub_cancel_left]
  by_cases hk : k < w
  · simp [show start + k < m by omega, show k < m by omega]
  · simp [BitVec.getLsbD_of_ge x k (Nat.not_lt.mp hk)]

theorem getLsbD_field_of_ge {i : Nat} (h : start + w ≤ i) (x : BitVec w) : (field m start x).getLsbD i = false := by
  rw [field, BitVec.getLsbD_shiftLeft, BitVec.getLsbD_setWidth, BitVec.getLsbD_of_ge x _ (by omega)]
  simp

theorem eq_of_field_xor_eq (h : start + w ≤ m) {x x' : BitVec w} {rest rest' : BitVec m}
    (hr : ∀ i, start ≤ i → rest.getLsbD i = false) (hr' : ∀ i, start ≤ i → rest'.getLsbD i = false)
    (heq : field m start x ^^^ rest = field m start x' ^^^ rest') : x = x' ∧ rest = rest' := by
  have hx : x = x' := by
    apply BitVec.eq_of_getLsbD_eq
    intro k _
    have hbit := congrArg (BitVec.getLsbD · (start + k)) heq
    simpa only [BitVec.getLsbD_xor, getLsbD_field h, hr _ (Nat.le_add_right start k),
      hr' _ (Nat.le_add_right start k), Bool.xor_false] using hbit
  subst hx
  exact ⟨rfl, (BitVec.xor_right_inj _).mp heq⟩

end

theorem counterMode_inj (hi : index.toNat < 0x1000000000000) (hi' : index'.toNat < 0x1000000000000)
    (h : counterMode salt ssrc index = counterMode salt ssrc' index') : ssrc = ssrc' ∧ index = index' := by
  simp only [counterMode, BitVec.xor_assoc, BitVec.xor_right_inj] at h
  have hlow (x : BitVec 48) (i : Nat) (hi : 64 ≤ i) : (field 128 16 x).getLsbD i = false :=
    getLsbD_field_of_ge (show 16 + 48 ≤ i from hi) x
  obtain ⟨hssrc, hindex⟩ := eq_of_field_xor_eq (by decide) (hlow _) (hlow _) h
  have hn := congrArg BitVec.toNat hindex
  simp only [field, BitVec.toNat_shiftLeft, BitVec.toNat_setWidth, UInt64.toNat_toBitVec, Nat.shiftLeft_eq] at hn
  exact ⟨UInt32.toBitVec_inj.mp hssrc, UInt64.toNat_inj.mp (by omega)⟩

theorem galoisRtp_inj (h : galoisRtp salt ssrc roc seq = galoisRtp salt ssrc' roc' seq') :
    ssrc = ssrc' ∧ roc = roc' ∧ seq = seq' := by
  simp only [galoisRtp, BitVec.xor_assoc, BitVec.xor_right_inj] at h
  have hseq (seq : UInt16) (i : Nat) (hi : 16 ≤ i) : (seq.toBitVec.setWidth 96).getLsbD i = false := by
    rw [BitVec.getLsbD_setWidth, BitVec.getLsbD_of_ge _ _ hi, Bool.and_false]
  have hlow (roc : UInt32) (seq : UInt16) (i : Nat) (hi : 48 ≤ i) :
      (field 96 16 roc.toBitVec ^^^ seq.toBitVec.setWidth 96).getLsbD i = false := by
    rw [BitVec.getLsbD_xor, getLsbD_field_of_ge hi, hseq seq i (by omega)]
    rfl
  obtain ⟨hssrc, hrest⟩ := eq_of_field_xor_eq (by decide) (hlow _ _) (hlow _ _) h
  obtain ⟨hroc, hnumber⟩ := eq_of_field_xor_eq (by decide) (hseq _) (hseq _) hrest
  have hs := seq.toNat_lt
  have hs' := seq'.toNat_lt
  have hn := congrArg BitVec.toNat hnumber
  simp only [BitVec.toNat_setWidth, UInt16.toNat_toBitVec] at hn
  exact ⟨UInt32.toBitVec_inj.mp hssrc, UInt32.toBitVec_inj.mp hroc, UInt16.toNat_inj.mp (by omega)⟩

theorem galoisRtcp_inj {word word' : UInt32} (h : galoisRtcp salt ssrc word = galoisRtcp salt ssrc' word') :
    ssrc = ssrc' ∧ word &&& 0x7fffffff = word' &&& 0x7fffffff := by
  simp only [galoisRtcp, BitVec.xor_assoc, BitVec.xor_right_inj] at h
  have hlow (low : UInt32) (i : Nat) (hi : 48 ≤ i) : (low.toBitVec.setWidth 96).getLsbD i = false := by
    rw [BitVec.getLsbD_setWidth, BitVec.getLsbD_of_ge _ _ (by omega), Bool.and_false]
  obtain ⟨hssrc, hindex⟩ := eq_of_field_xor_eq (by decide) (hlow _) (hlow _) h
  have hn := congrArg BitVec.toNat hindex
  have hi := (word &&& 0x7fffffff).toNat_lt
  have hi' := (word' &&& 0x7fffffff).toNat_lt
  simp only [BitVec.toNat_setWidth, UInt32.toNat_toBitVec] at hn
  exact ⟨UInt32.toBitVec_inj.mp hssrc, UInt32.toNat_inj.mp (by omega)⟩

end Nonce

end SecureRtp
