import SecureRtp.Session.Basic
import SecureRtp.Proofs.Cipher.Keystream

namespace SecureRtp

structure MasterKey.Fits (suite : Suite) (m : MasterKey) : Prop where
  key : m.key.length = suite.keyLength
  salt : m.salt.length = suite.saltLength

inductive StreamCrypto.Fits (suite : Suite) (tagLength : Nat) : StreamCrypto → Prop
  | counterMode {key salt authKey : Bytes} (hs : suite.isAead = false) (hk : (Aes.Key.ofBytes? key).isSome)
      (ht : tagLength ≤ 20) : Fits suite tagLength (.counterMode key salt ⟨authKey, tagLength⟩)
  | galois {key : Aes.Key} {salt : Bytes} (hs : suite.isAead = true) (ht : tagLength = 16) :
      Fits suite tagLength (.galois key salt)

structure SessionCrypto.Fits (c : SessionCrypto) : Prop where
  rtp : c.rtp.Fits c.suite c.suite.rtpTagLength
  rtcp : c.rtcp.Fits c.suite c.suite.rtcpTagLength
  header : (Aes.Key.ofBytes? c.header.cipherKey).isSome

variable {suite : Suite} {material : Bytes} {m : MasterKey}

theorem ok_bind {α β : Type} (a : α) (f : α → Except Error β) : (Except.ok a >>= f) = f a := rfl

theorem Suite.isSome_ofBytes? {key : Bytes} (hk : key.length = suite.keyLength) :
    (Aes.Key.ofBytes? key).isSome := by
  rw [Aes.Key.ofBytes?_isSome, hk]
  cases suite <;> decide

theorem MasterKey.fits_ofMaterial (h : material.length = suite.materialLength) :
    ∃ m, ofMaterial suite material = .ok m ∧ m.Fits suite := by
  refine ⟨⟨material.take suite.keyLength, material.drop suite.keyLength⟩, if_pos h, ?_⟩
  constructor
  · change (material.take suite.keyLength).length = suite.keyLength
    rw [List.length_take, h, Suite.materialLength]
    omega
  · change (material.drop suite.keyLength).length = suite.saltLength
    rw [List.length_drop, h, Suite.materialLength]
    omega

theorem MasterKey.Fits.derive (hm : m.Fits suite) (label : KeyLabel) (length : Nat) :
    ∃ bytes, m.derive label length = .ok bytes ∧ bytes.length = length := by
  obtain ⟨k, hk⟩ := Option.isSome_iff_exists.mp (Suite.isSome_ofBytes? hm.key)
  have hs : ¬m.salt.length > 14 := by
    rw [hm.salt]
    cases suite <;> decide
  refine ⟨CounterMode.apply k (label.iv m.salt) (zeros length), ?_, ?_⟩
  · simp only [MasterKey.derive, if_neg hs, CounterMode.transform, hk]
  · rw [CounterMode.length_apply, length_zeros]

theorem MasterKey.Fits.sessionKeys (hm : m.Fits suite) (cipher : KeyLabel) (auth : Option KeyLabel)
    (salt : KeyLabel) :
    ∃ keys, SessionKeys.derive suite m cipher auth salt = .ok keys ∧ keys.cipherKey.length = suite.keyLength := by
  obtain ⟨cipherKey, hc, hl⟩ := hm.derive cipher suite.keyLength
  obtain ⟨saltKey, hs, -⟩ := hm.derive salt suite.saltLength
  cases auth with
  | none =>
    refine ⟨⟨cipherKey, [], saltKey⟩, ?_, hl⟩
    simp only [SessionKeys.derive, hc, hs, ok_bind]
    rfl
  | some label =>
    obtain ⟨authKey, ha, -⟩ := hm.derive label SessionKeys.authKeyLength
    cases he : suite.isAead with
    | true =>
      refine ⟨⟨cipherKey, [], saltKey⟩, ?_, hl⟩
      simp only [SessionKeys.derive, hc, hs, he]
      rfl
    | false =>
      refine ⟨⟨cipherKey, authKey, saltKey⟩, ?_, hl⟩
      simp only [SessionKeys.derive, hc, hs, ha, he]
      rfl

theorem MasterKey.Fits.length_authKey (hm : m.Fits suite) (hs : suite.isAead = false) {cipher auth salt : KeyLabel}
    {keys : SessionKeys} (hk : SessionKeys.derive suite m cipher (some auth) salt = .ok keys) :
    keys.authKey.length = SessionKeys.authKeyLength := by
  obtain ⟨cipherKey, hc, -⟩ := hm.derive cipher suite.keyLength
  obtain ⟨saltKey, hsalt, -⟩ := hm.derive salt suite.saltLength
  obtain ⟨authKey, ha, hl⟩ := hm.derive auth SessionKeys.authKeyLength
  simp only [SessionKeys.derive, hc, hsalt, ha, hs] at hk
  cases hk
  exact hl

theorem StreamCrypto.fits_ofKeys {keys : SessionKeys} (tagLength : Nat)
    (hk : keys.cipherKey.length = suite.keyLength) (hc : suite.isAead = false → tagLength ≤ 20)
    (hg : suite.isAead = true → tagLength = 16) :
    ∃ c, ofKeys suite keys tagLength = .ok c ∧ c.Fits suite tagLength := by
  have hsome := Suite.isSome_ofBytes? hk
  cases he : suite.isAead with
  | true =>
    obtain ⟨key, hkey⟩ := Option.isSome_iff_exists.mp hsome
    refine ⟨.galois key keys.salt, ?_, .galois he (hg he)⟩
    simp only [ofKeys, he, if_true, Galois.keyOfBytes, hkey]
    rfl
  | false =>
    refine ⟨.counterMode keys.cipherKey keys.salt ⟨keys.authKey, tagLength⟩, ?_, .counterMode he hsome (hc he)⟩
    simp [ofKeys, he]

namespace SessionCrypto

theorem fits_ofMaterial (h : material.length = suite.materialLength) :
    ∃ c, ofMaterial suite material = .ok c ∧ c.suite = suite ∧ c.Fits := by
  obtain ⟨m, hm, hf⟩ := MasterKey.fits_ofMaterial h
  obtain ⟨rtpKeys, hr, hrl⟩ := hf.sessionKeys .rtpEncryption (some .rtpAuthentication) .rtpSalt
  obtain ⟨rtcpKeys, hc, hcl⟩ := hf.sessionKeys .rtcpEncryption (some .rtcpAuthentication) .rtcpSalt
  obtain ⟨header, hh, hhl⟩ := hf.sessionKeys .headerEncryption none .headerSalt
  obtain ⟨rtp, hrs, hrf⟩ := StreamCrypto.fits_ofKeys suite.rtpTagLength hrl
    (by cases suite <;> decide) (by cases suite <;> decide)
  obtain ⟨rtcp, hcs, hcf⟩ := StreamCrypto.fits_ofKeys suite.rtcpTagLength hcl
    (by cases suite <;> decide) (by cases suite <;> decide)
  refine ⟨⟨suite, rtp, rtcp, header⟩, ?_, rfl, ⟨hrf, hcf, Suite.isSome_ofBytes? hhl⟩⟩
  simp only [ofMaterial, SessionKeys.deriveRtp, SessionKeys.deriveRtcp, SessionKeys.deriveHeader, hm, hr, hc, hh,
    hrs, hcs, ok_bind]
  rfl

theorem length_of_ofMaterial {c : SessionCrypto} (h : ofMaterial suite material = .ok c) :
    material.length = suite.materialLength := by
  by_cases hl : material.length = suite.materialLength
  · exact hl
  · have he : MasterKey.ofMaterial suite material = .error (.invalidKey (.materialLength suite material.length)) :=
      if_neg hl
    simp only [ofMaterial, he] at h
    cases h

theorem fits_of_ofMaterial {c : SessionCrypto} (h : ofMaterial suite material = .ok c) :
    c.suite = suite ∧ c.Fits := by
  obtain ⟨c', hc, hf⟩ := fits_ofMaterial (length_of_ofMaterial h)
  cases h.symm.trans hc
  exact hf

theorem exists_authKey {c : SessionCrypto} (h : ofMaterial suite material = .ok c) (hs : suite.isAead = false) :
    ∃ key salt auth, c.rtp = .counterMode key salt auth ∧ auth.key.length = SessionKeys.authKeyLength ∧
      auth.tagLength = suite.rtpTagLength := by
  obtain ⟨m, hm, hf⟩ := MasterKey.fits_ofMaterial (length_of_ofMaterial h)
  obtain ⟨rtpKeys, hr, -⟩ := hf.sessionKeys .rtpEncryption (some .rtpAuthentication) .rtpSalt
  obtain ⟨rtcpKeys, hc, -⟩ := hf.sessionKeys .rtcpEncryption (some .rtcpAuthentication) .rtcpSalt
  obtain ⟨header, hh, -⟩ := hf.sessionKeys .headerEncryption none .headerSalt
  have hkeys (keys : SessionKeys) (n : Nat) : StreamCrypto.ofKeys suite keys n =
      .ok (.counterMode keys.cipherKey keys.salt ⟨keys.authKey, n⟩) := by
    rw [StreamCrypto.ofKeys, hs]
    rfl
  simp only [ofMaterial, SessionKeys.deriveRtp, SessionKeys.deriveRtcp, SessionKeys.deriveHeader, hm, hr, hc, hh,
    hkeys, ok_bind] at h
  cases h
  exact ⟨_, _, _, rfl, hf.length_authKey hs hr, rfl⟩

end SessionCrypto

end SecureRtp
