import SecureRtp.Packet.Edit
import SecureRtp.Proofs.Cipher.Keystream

namespace SecureRtp

namespace Galois

variable {key : Aes.Key} {nonce : Nonce} {aad data tag text : Bytes}

theorem eq_apply_iff : data = apply key nonce text ↔ text = apply key nonce data := by
  constructor
  · rintro rfl
    exact (apply_apply key nonce text).symm
  · rintro rfl
    exact (apply_apply key nonce data).symm

theorem encrypt_eq (key : Aes.Key) (nonce : Nonce) (aad text : Bytes) :
    encrypt key nonce aad text =
      if text.length ≤ maxLength ∧ aad.length ≤ maxLength then
        .ok (apply key nonce text, Galois.tag key nonce aad (apply key nonce text))
      else .error (.crypto .sealRefused) := by
  unfold encrypt
  split
  · rw [if_neg (by omega)]
  · rw [if_pos (by omega)]

theorem decrypt_eq (key : Aes.Key) (nonce : Nonce) (aad data tag : Bytes) :
    decrypt key nonce aad data tag =
      if (data.length ≤ maxLength + tagLength ∧ aad.length ≤ maxLength) ∧ tag = Galois.tag key nonce aad data then
        .ok (apply key nonce data)
      else .error .authenticationFailed := by
  unfold decrypt
  split
  · rw [if_neg (by omega)]
  · by_cases htag : Galois.tag key nonce aad data = tag
    · rw [if_pos htag, if_pos ⟨by omega, htag.symm⟩]
    · rw [if_neg htag, if_neg (fun h => htag h.2.symm)]

theorem encrypt_eq_ok_iff :
    encrypt key nonce aad text = .ok (data, tag) ↔
      (text.length ≤ maxLength ∧ aad.length ≤ maxLength) ∧ data = apply key nonce text ∧
        tag = Galois.tag key nonce aad data := by
  rw [encrypt_eq]
  by_cases hfits : text.length ≤ maxLength ∧ aad.length ≤ maxLength
  · rw [if_pos hfits, Except.ok.injEq, Prod.mk.injEq]
    constructor
    · rintro ⟨rfl, rfl⟩
      exact ⟨hfits, rfl, rfl⟩
    · rintro ⟨-, rfl, rfl⟩
      exact ⟨rfl, rfl⟩
  · rw [if_neg hfits]
    exact ⟨nofun, fun h => absurd h.1 hfits⟩

theorem decrypt_eq_ok_iff :
    decrypt key nonce aad data tag = .ok text ↔
      ((data.length ≤ maxLength + tagLength ∧ aad.length ≤ maxLength) ∧ tag = Galois.tag key nonce aad data) ∧
        text = apply key nonce data := by
  rw [decrypt_eq]
  split
  · rename_i hopens
    rw [Except.ok.injEq]
    exact ⟨fun h => ⟨hopens, h.symm⟩, fun h => h.2.symm⟩
  · rename_i hfails
    exact ⟨nofun, fun h => absurd h.1 hfails⟩

theorem decrypt_eq_ok_iff_encrypt (hl : data.length ≤ maxLength) :
    decrypt key nonce aad data tag = .ok text ↔ encrypt key nonce aad text = .ok (data, tag) := by
  rw [decrypt_eq_ok_iff, encrypt_eq_ok_iff, eq_apply_iff]
  constructor
  · rintro ⟨⟨⟨-, haad⟩, htag⟩, rfl⟩
    rw [length_apply] at hl
    exact ⟨⟨hl, haad⟩, rfl, htag⟩
  · rintro ⟨⟨htext, haad⟩, rfl, htag⟩
    exact ⟨⟨⟨Nat.le_add_right_of_le hl, haad⟩, htag⟩, rfl⟩

theorem decrypt_cases (key : Aes.Key) (nonce : Nonce) (aad data tag : Bytes) :
    decrypt key nonce aad data tag = .error .authenticationFailed ∨
      ∃ text, decrypt key nonce aad data tag = .ok text := by
  rw [decrypt_eq]
  split
  · exact .inr ⟨_, rfl⟩
  · exact .inl rfl

def sealPart (key : Aes.Key) (nonce : Nonce) (aad : Bytes) (start stop : Nat) : Edit Bytes := do
  let (ciphertext, tag) ← Edit.lift (encrypt key nonce aad (slice (← get) start stop))
  Edit.replace start ciphertext
  pure tag

def openPart (key : Aes.Key) (nonce : Nonce) (aad tag : Bytes) (start stop : Nat) : Edit Unit := do
  Edit.replace start (← Edit.lift (decrypt key nonce aad (slice (← get) start stop) tag))

section

variable {before after : Bytes} {start stop : Nat}

theorem sealPart_apply (hs : start = before.length) (he : stop = before.length + text.length) :
    (sealPart key nonce aad start stop).apply (before ++ (text ++ after)) =
      match encrypt key nonce aad text with
      | .ok (data, tag) => (.ok tag, before ++ (data ++ after))
      | .error e => (.error e, before ++ (text ++ after)) := by
  simp only [sealPart, Edit.apply_bind, Edit.apply_get, Edit.apply_lift, slice_mid hs he]
  cases hsealed : encrypt key nonce aad text with
  | error e => rfl
  | ok result =>
    obtain ⟨data, tag⟩ := result
    obtain ⟨-, rfl, -⟩ := encrypt_eq_ok_iff.mp hsealed
    simp only [Edit.apply_replace, overwrite_mid hs (length_apply _ _ _), Edit.apply_pure]

theorem openPart_apply (hs : start = before.length) (he : stop = before.length + data.length) :
    (openPart key nonce aad tag start stop).apply (before ++ (data ++ after)) =
      match decrypt key nonce aad data tag with
      | .ok text => (.ok (), before ++ (text ++ after))
      | .error e => (.error e, before ++ (data ++ after)) := by
  simp only [openPart, Edit.apply_bind, Edit.apply_get, Edit.apply_lift, slice_mid hs he]
  cases hopened : decrypt key nonce aad data tag with
  | error e => rfl
  | ok text =>
    obtain ⟨-, rfl⟩ := decrypt_eq_ok_iff.mp hopened
    simp only [Edit.apply_replace, overwrite_mid hs (length_apply _ _ _)]

end

def sealBetween (before after : Bytes) (key : Aes.Key) (nonce : Nonce) (aad text : Bytes) :
    Except Error Bytes × Bytes :=
  (sealPart key nonce aad before.length (before.length + text.length)).apply (before ++ (text ++ after))

def openBetween (before after : Bytes) (key : Aes.Key) (nonce : Nonce) (aad data tag : Bytes) :
    Except Error Unit × Bytes :=
  (openPart key nonce aad tag before.length (before.length + data.length)).apply (before ++ (data ++ after))

variable {before after : Bytes}

theorem sealBetween_eq_ok_iff :
    sealBetween before after key nonce aad text = (.ok tag, before ++ (data ++ after)) ↔
      encrypt key nonce aad text = .ok (data, tag) := by
  rw [sealBetween, sealPart_apply rfl rfl]
  cases encrypt key nonce aad text with
  | error e => simp
  | ok result => simp [Prod.ext_iff, and_comm]

theorem openBetween_eq_ok_iff :
    openBetween before after key nonce aad data tag = (.ok (), before ++ (text ++ after)) ↔
      decrypt key nonce aad data tag = .ok text := by
  rw [openBetween, openPart_apply rfl rfl]
  cases decrypt key nonce aad data tag with
  | error e => simp
  | ok text => simp

structure OpensSealed (before after : Bytes) (key : Aes.Key) (nonce : Nonce) (aad data tag : Bytes) : Prop where
  ok_iff : ∀ text, openBetween before after key nonce aad data tag = (.ok (), before ++ (text ++ after)) ↔
    sealBetween before after key nonce aad text = (.ok tag, before ++ (data ++ after))
  refused : (∀ text, sealBetween before after key nonce aad text ≠ (.ok tag, before ++ (data ++ after))) →
    openBetween before after key nonce aad data tag = (.error .authenticationFailed, before ++ (data ++ after))

theorem opensSealed_of_le (before after : Bytes) (key : Aes.Key) (nonce : Nonce) (aad : Bytes) {data : Bytes}
    (hl : data.length ≤ maxLength) (tag : Bytes) : OpensSealed before after key nonce aad data tag := by
  have hiff (text : Bytes) : openBetween before after key nonce aad data tag = (.ok (), before ++ (text ++ after)) ↔
      sealBetween before after key nonce aad text = (.ok tag, before ++ (data ++ after)) := by
    rw [openBetween_eq_ok_iff, sealBetween_eq_ok_iff, decrypt_eq_ok_iff_encrypt hl]
  constructor
  case ok_iff => exact hiff
  case refused =>
    intro hnone
    rcases decrypt_cases key nonce aad data tag with herror | ⟨text, hok⟩
    · rw [openBetween, openPart_apply rfl rfl, herror]
    · exact absurd ((hiff text).mp (openBetween_eq_ok_iff.mpr hok)) (hnone text)

/-- Under a key of sixteen or thirty-two bytes every text within the limits can be sealed and opened again, and
nothing else opens. -/
theorem opens_exactly_what_is_sealed {bytes : Bytes} (hk : bytes.length = 16 ∨ bytes.length = 32) :
    ∃ key, keyOfBytes bytes = .ok key ∧ ∀ (before after : Bytes) (nonce : Nonce) (aad : Bytes),
      (∀ data tag, data.length ≤ maxLength → OpensSealed before after key nonce aad data tag) ∧
        ∀ text, text.length ≤ maxLength → aad.length ≤ maxLength → ∃ data tag, tag.length = tagLength ∧
          data.length = text.length ∧
          sealBetween before after key nonce aad text = (.ok tag, before ++ (data ++ after)) ∧
          openBetween before after key nonce aad data tag = (.ok (), before ++ (text ++ after)) := by
  obtain ⟨key, hkey⟩ := Option.isSome_iff_exists.mp (Aes.Key.ofBytes?_isSome.mpr hk)
  refine ⟨key, by simp only [keyOfBytes, hkey], fun before after nonce aad => ⟨?_, ?_⟩⟩
  · intro data tag hl
    exact opensSealed_of_le before after key nonce aad hl tag
  · intro text htext haad
    have hlen : (apply key nonce text).length = text.length := length_apply key nonce text
    have hseal : sealBetween before after key nonce aad text =
        (.ok (Galois.tag key nonce aad (apply key nonce text)), before ++ (apply key nonce text ++ after)) :=
      sealBetween_eq_ok_iff.mpr (encrypt_eq_ok_iff.mpr ⟨⟨htext, haad⟩, rfl, rfl⟩)
    have hopens := opensSealed_of_le before after key nonce aad (hlen ▸ htext)
      (Galois.tag key nonce aad (apply key nonce text))
    exact ⟨_, _, length_tag key nonce aad _, hlen, hseal, (hopens.ok_iff text).mpr hseal⟩

def sealedZeros : Bytes :=
  [0x03, 0x88, 0xda, 0xce, 0x60, 0xb6, 0xa3, 0x92, 0xf3, 0x28, 0xc2, 0xb9, 0x71, 0xb2, 0xfe, 0x78]

def tagOfZeros : Bytes :=
  [0xab, 0x6e, 0x47, 0xd4, 0x2c, 0xec, 0x13, 0xbd, 0xf5, 0x3a, 0x67, 0xb2, 0x12, 0x57, 0xbd, 0xdf]

theorem encrypt_zeros (hk : keyOfBytes (zeros 16) = .ok key) :
    encrypt key 0 [] (zeros 16) = .ok (sealedZeros, tagOfZeros) := by
  have hresult : ((keyOfBytes (zeros 16)).toOption.map fun key =>
      (apply key 0 (zeros 16), Galois.tag key 0 [] sealedZeros)) = some (sealedZeros, tagOfZeros) := by
    decide +kernel
  rw [hk] at hresult
  obtain ⟨hdata, htag⟩ := Prod.mk.inj (Option.some.inj hresult)
  exact encrypt_eq_ok_iff.mpr ⟨by decide, hdata.symm, htag.symm⟩

theorem opens_exactly_sealed_zeros :
    (zeros 16).length = 16 ∧ sealedZeros.length ≤ maxLength ∧ ∃ key, keyOfBytes (zeros 16) = .ok key ∧
      sealBetween [] [] key 0 [] (zeros 16) = (.ok tagOfZeros, sealedZeros) ∧
      openBetween [] [] key 0 [] sealedZeros tagOfZeros = (.ok (), zeros 16) ∧
      openBetween [] [] key 0 [] sealedZeros (zeros 16) = (.error .authenticationFailed, sealedZeros) := by
  have hlength : (zeros 16).length = 16 := length_zeros 16
  have hfits : sealedZeros.length ≤ maxLength := by decide
  obtain ⟨key, hkey, hopens⟩ := opens_exactly_what_is_sealed (.inl hlength)
  have hzeros := encrypt_zeros hkey
  have hseal : sealBetween [] [] key 0 [] (zeros 16) = (.ok tagOfZeros, [] ++ (sealedZeros ++ [])) :=
    sealBetween_eq_ok_iff.mpr hzeros
  have hopen := (((hopens [] [] 0 []).1 sealedZeros tagOfZeros hfits).ok_iff (zeros 16)).mpr hseal
  have hrefused := ((hopens [] [] 0 []).1 sealedZeros (zeros 16) hfits).refused (by
    intro text htext
    obtain ⟨-, -, htag⟩ := encrypt_eq_ok_iff.mp (sealBetween_eq_ok_iff.mp htext)
    obtain ⟨-, -, htag'⟩ := encrypt_eq_ok_iff.mp hzeros
    exact absurd (htag.trans htag'.symm) (by decide))
  exact ⟨hlength, hfits, key, hkey, hseal, hopen, hrefused⟩

end Galois

end SecureRtp
