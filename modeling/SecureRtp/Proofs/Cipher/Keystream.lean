import SecureRtp.Cipher.CounterMode
import SecureRtp.Cipher.Galois
import SecureRtp.Proofs.Bytes

namespace SecureRtp

section

variable (block : Nat → Bytes) (hb : ∀ i, (block i).length = 16)

include hb

theorem length_flatMap_range (n : Nat) : ((List.range n).flatMap block).length = 16 * n := by
  simp only [List.length_flatMap, hb, List.map_const', List.length_range, List.sum_replicate_nat]
  omega

theorem length_take_blocks (length : Nat) :
    (((List.range (groupCount 16 length)).flatMap block).take length).length = length := by
  have hc : length ≤ 16 * groupCount 16 length := by
    simp only [groupCount]
    omega
  rw [List.length_take, length_flatMap_range block hb, Nat.min_eq_left hc]

theorem getElem?_flatMap_range (n i : Nat) :
    ((List.range n).flatMap block)[i]? = if i < 16 * n then (block (i / 16))[i % 16]? else none := by
  induction n with
  | zero => simp
  | succ n ih =>
    rw [List.range_succ, List.flatMap_append, List.flatMap_singleton, List.getElem?_append,
      length_flatMap_range block hb]
    by_cases hi : i < 16 * n
    · rw [if_pos hi, ih, if_pos hi, if_pos (by omega)]
    · rw [if_neg hi]
      by_cases hlast : i < 16 * (n + 1)
      · have hdiv : i / 16 = n := by omega
        have hmod : i - 16 * n = i % 16 := by omega
        rw [if_pos hlast, hdiv, hmod]
      · rw [if_neg hlast, List.getElem?_eq_none]
        rw [hb]
        omega

end

namespace CounterMode

def keystreamByte (key : Aes.Key) (iv : Block) (i : Nat) : UInt8 :=
  (Aes.encrypt key (counterBlock iv (i / 16))).toBytes.getD (i % 16) 0

theorem getElem?_keystream (key : Aes.Key) (iv : Block) (length i : Nat) :
    (keystream key iv length)[i]? = if i < length then some (keystreamByte key iv i) else none := by
  rw [keystream, List.getElem?_take]
  split
  · rename_i hi
    have hcount : i < 16 * groupCount 16 length := by
      rw [groupCount]
      omega
    have hbyte : i % 16 < (Aes.encrypt key (counterBlock iv (i / 16))).toBytes.length := by
      rw [Block.length_toBytes]
      omega
    rw [getElem?_flatMap_range _ (fun _ => Block.length_toBytes _), if_pos hcount, keystreamByte,
      List.getD_eq_getElem?_getD, List.getElem?_eq_getElem hbyte]
    rfl
  · rfl

@[simp] theorem length_keystream (key : Aes.Key) (iv : Block) (length : Nat) :
    (keystream key iv length).length = length :=
  length_take_blocks _ (fun _ => Block.length_toBytes _) length

@[simp] theorem length_apply (key : Aes.Key) (iv : Block) (data : Bytes) :
    (apply key iv data).length = data.length := by
  simp [apply]

theorem apply_apply (key : Aes.Key) (iv : Block) (data : Bytes) : apply key iv (apply key iv data) = data := by
  rw [apply, length_apply, apply]
  exact xorBytes_xorBytes (by simp)

def crypt (key : Bytes) (iv : Block) (data : Bytes) : Bytes :=
  match Aes.Key.ofBytes? key with
  | some key => apply key iv data
  | none => data

@[simp] theorem length_crypt (key : Bytes) (iv : Block) (data : Bytes) :
    (crypt key iv data).length = data.length := by
  unfold crypt
  split <;> simp

theorem crypt_crypt (key : Bytes) (iv : Block) (data : Bytes) : crypt key iv (crypt key iv data) = data := by
  unfold crypt
  split
  · exact apply_apply _ _ _
  · rfl

theorem transform_eq_crypt {key : Bytes} (hk : (Aes.Key.ofBytes? key).isSome) (iv : Block) (data : Bytes) :
    transform key iv data = .ok (crypt key iv data) := by
  obtain ⟨k, hk⟩ := Option.isSome_iff_exists.mp hk
  simp only [transform, crypt, hk]

end CounterMode

namespace Galois

@[simp] theorem length_keystream (key : Aes.Key) (nonce : Nonce) (length : Nat) :
    (keystream key nonce length).length = length :=
  length_take_blocks _ (fun _ => Block.length_toBytes _) length

@[simp] theorem length_apply (key : Aes.Key) (nonce : Nonce) (data : Bytes) :
    (apply key nonce data).length = data.length := by
  simp [apply]

theorem apply_apply (key : Aes.Key) (nonce : Nonce) (data : Bytes) :
    apply key nonce (apply key nonce data) = data := by
  rw [apply, length_apply, apply]
  exact xorBytes_xorBytes (by simp)

@[simp] theorem length_tag (key : Aes.Key) (nonce : Nonce) (aad ciphertext : Bytes) :
    (tag key nonce aad ciphertext).length = 16 := Block.length_toBytes _

end Galois

end SecureRtp
