import SecureRtp.Proofs.Cipher.Galois
import SecureRtp.Proofs.Session.HeaderMask
import SecureRtp.Proofs.Session.Keys
/-!
What sealing writes and what opening accepts, for one packet of either kind. Payload and tag are functions of the
keys, the stream and the index, so that sealing and opening undo each other.
-/
namespace SecureRtp

theorem Authenticator.tag_eq {n : Nat} (hn : n ≤ 20) (key message : Bytes) :
    Authenticator.tag ⟨key, n⟩ message = .ok ((Hmac.digest key message).take n) := by
  rw [Authenticator.tag, Hmac.length_digest]
  exact if_neg (Nat.not_lt.mpr hn)

namespace StreamCrypto

variable {suite : Suite} {n : Nat} {c : StreamCrypto}

def Seals (c : StreamCrypto) (aad text : Nat) : Prop :=
  match c with
  | galois .. => text ≤ Galois.maxLength ∧ aad ≤ Galois.maxLength
  | counterMode .. => True

def Opens (c : StreamCrypto) (aad text : Nat) : Prop :=
  match c with
  | galois .. => text ≤ Galois.maxLength + Galois.tagLength ∧ aad ≤ Galois.maxLength
  | counterMode .. => True

instance (c : StreamCrypto) (aad text : Nat) : Decidable (c.Seals aad text) := by
  unfold Seals
  cases c <;> infer_instance

instance (c : StreamCrypto) (aad text : Nat) : Decidable (c.Opens aad text) := by
  unfold Opens
  cases c <;> infer_instance

theorem seals_of_le (c : StreamCrypto) {aad text : Nat} (ha : aad ≤ Galois.maxLength)
    (ht : text ≤ Galois.maxLength) : c.Seals aad text := by
  cases c with
  | galois => exact ⟨ht, ha⟩
  | counterMode => trivial

theorem Fits.seals (hc : c.Fits suite n) {aad text : Nat}
    (h : suite.isAead = true → text ≤ Galois.maxLength ∧ aad ≤ Galois.maxLength) : c.Seals aad text := by
  cases hc with
  | counterMode => trivial
  | galois hs => exact h hs

theorem Seals.opens {aad text : Nat} (h : c.Seals aad text) : c.Opens aad text := by
  cases c with
  | galois => exact ⟨Nat.le_trans h.1 (by decide), h.2⟩
  | counterMode => trivial

def rtpPayload (c : StreamCrypto) (ssrc : UInt32) (p : Position) (payload : Bytes) : Bytes :=
  match c with
  | galois key salt => Galois.apply key (Nonce.galoisRtp salt ssrc p.roc p.seq) payload
  | counterMode key salt _ => CounterMode.crypt key (Nonce.counterMode salt ssrc p.index) payload

def rtpTag (c : StreamCrypto) (ssrc : UInt32) (p : Position) (header payload : Bytes) : Bytes :=
  match c with
  | galois key salt => Galois.tag key (Nonce.galoisRtp salt ssrc p.roc p.seq) header payload
  | counterMode _ _ auth => (Hmac.digest auth.key (header ++ payload ++ beBytes 4 p.roc.toNat)).take auth.tagLength

def rtpTrailer (c : StreamCrypto) (external : Bool) (ssrc : UInt32) (p : Position) (header payload : Bytes) :
    Bytes :=
  match c, external with
  | counterMode _ _ auth, true => zeros auth.tagLength
  | _, _ => c.rtpTag ssrc p header payload

@[simp] theorem rtpTrailer_false (c : StreamCrypto) (ssrc : UInt32) (p : Position) (header payload : Bytes) :
    c.rtpTrailer false ssrc p header payload = c.rtpTag ssrc p header payload := by
  cases c <;> rfl

@[simp] theorem length_rtpPayload (c : StreamCrypto) (ssrc : UInt32) (p : Position) (payload : Bytes) :
    (c.rtpPayload ssrc p payload).length = payload.length := by
  cases c <;> simp [rtpPayload]

theorem rtpPayload_rtpPayload (c : StreamCrypto) (ssrc : UInt32) (p : Position) (payload : Bytes) :
    c.rtpPayload ssrc p (c.rtpPayload ssrc p payload) = payload := by
  cases c with
  | galois => exact Galois.apply_apply _ _ _
  | counterMode => exact CounterMode.crypt_crypt _ _ _

theorem Fits.length_rtpTag (hc : c.Fits suite n) (ssrc : UInt32) (p : Position) (header payload : Bytes) :
    (c.rtpTag ssrc p header payload).length = n := by
  cases hc with
  | galois hs ht => exact (Galois.length_tag _ _ _ _).trans ht.symm
  | counterMode hs hk ht =>
    rw [rtpTag, List.length_take, Hmac.length_digest]
    exact Nat.min_eq_left ht

theorem Fits.length_rtpTrailer (hc : c.Fits suite n) (external : Bool) (ssrc : UInt32) (p : Position)
    (header payload : Bytes) : (c.rtpTrailer external ssrc p header payload).length = n := by
  cases external with
  | false => rw [rtpTrailer_false, hc.length_rtpTag]
  | true =>
    cases hc with
    | galois hs ht => exact (Galois.length_tag _ _ _ _).trans ht.symm
    | counterMode hs hk ht => exact length_zeros _

theorem sealRtp_eq_sealPart (key : Aes.Key) (salt : Bytes) (external : Bool) (ssrc : UInt32) (p : Position)
    (headerLength length : Nat) :
    sealRtp (.galois key salt) external ssrc p headerLength length = (do
      let packet ← get
      let tag ← Galois.sealPart key (Nonce.galoisRtp salt ssrc p.roc p.seq) (packet.take headerLength) headerLength
        length
      Edit.replace length tag) := by
  simp only [sealRtp, Galois.sealPart, bind_assoc, pure_bind]
  rfl

theorem openRtp_eq_openPart (key : Aes.Key) (salt : Bytes) (ssrc : UInt32) (p : Position)
    (headerLength length : Nat) :
    openRtp (.galois key salt) ssrc p headerLength length = (do
      let packet ← get
      Galois.openPart key (Nonce.galoisRtp salt ssrc p.roc p.seq) (packet.take headerLength) (packet.drop length)
        headerLength length) := rfl

theorem sealRtp_apply (hc : c.Fits suite n) (external : Bool) (ssrc : UInt32) (p : Position)
    (header payload spare : Bytes) :
    (c.sealRtp external ssrc p header.length (header.length + payload.length)).apply
        (header ++ (payload ++ spare)) =
      if c.Seals header.length payload.length then
        (.ok (), header ++ (c.rtpPayload ssrc p payload ++
          (c.rtpTrailer external ssrc p header (c.rtpPayload ssrc p payload) ++ spare.drop n)))
      else (.error (.crypto .sealRefused), header ++ (payload ++ spare)) := by
  have hlen := hc.length_rtpTrailer external ssrc p header (c.rtpPayload ssrc p payload)
  -- The place of the tag is the first bytes of the spare ones.
  have hwrite (text tag : Bytes) (htext : text.length = payload.length) (htag : tag.length = n) :
      overwrite (header ++ (text ++ spare)) (header.length + payload.length) tag =
        header ++ (text ++ (tag ++ spare.drop n)) := by
    rw [← List.append_assoc, overwrite_append (by simp [htext]), htag, List.append_assoc]
  cases hc with
  | galois hs ht =>
    rename_i key salt
    rw [sealRtp_eq_sealPart]
    simp only [Edit.apply_bind, Edit.apply_get, List.take_left, Galois.sealPart_apply rfl rfl, Galois.encrypt_eq]
    by_cases hfits : payload.length ≤ Galois.maxLength ∧ header.length ≤ Galois.maxLength
    · rw [if_pos hfits]
      exact (congrArg _ (hwrite _ _ (Galois.length_apply _ _ _) hlen)).trans (if_pos hfits).symm
    · rw [if_neg hfits]
      exact (if_neg hfits).symm
  | counterMode hs hk ht =>
    rename_i key salt authKey
    have hl : StreamCrypto.Seals (.counterMode key salt ⟨authKey, n⟩) header.length payload.length := trivial
    rw [if_pos hl]
    simp only [sealRtp, Edit.apply_bind, Edit.apply_get, Edit.apply_lift, slice_mid rfl rfl,
      CounterMode.transform_eq_crypt hk, Edit.apply_replace,
      overwrite_mid rfl (CounterMode.length_crypt _ _ _)]
    cases external with
    | true => exact congrArg _ (hwrite _ _ (CounterMode.length_crypt _ _ _) hlen)
    | false =>
      have htake : (header ++ (CounterMode.crypt key (Nonce.counterMode salt ssrc p.index) payload ++ spare)).take
          (header.length + payload.length) =
          header ++ CounterMode.crypt key (Nonce.counterMode salt ssrc p.index) payload := by
        rw [← List.append_assoc]
        exact List.take_left' (by simp)
      simp only [Bool.false_eq_true, if_false, Edit.apply_bind, Edit.apply_get, Edit.apply_lift, htake,
        Authenticator.rtpTag, Authenticator.tag_eq ht, Edit.apply_replace]
      exact congrArg _ (hwrite _ _ (CounterMode.length_crypt _ _ _) hlen)

theorem openRtp_apply (hc : c.Fits suite n) (ssrc : UInt32) (p : Position) (header payload tag : Bytes) :
    (c.openRtp ssrc p header.length (header.length + payload.length)).apply (header ++ (payload ++ tag)) =
      if c.Opens header.length payload.length ∧ tag = c.rtpTag ssrc p header payload then
        (.ok (), header ++ (c.rtpPayload ssrc p payload ++ tag))
      else (.error .authenticationFailed, header ++ (payload ++ tag)) := by
  have hdrop : (header ++ (payload ++ tag)).drop (header.length + payload.length) = tag := by
    rw [← List.append_assoc]
    exact List.drop_left' (by simp)
  have htake : (header ++ (payload ++ tag)).take (header.length + payload.length) = header ++ payload := by
    rw [← List.append_assoc]
    exact List.take_left' (by simp)
  cases hc with
  | galois hs ht =>
    rename_i key salt
    rw [openRtp_eq_openPart]
    simp only [Edit.apply_bind, Edit.apply_get, List.take_left, hdrop, Galois.openPart_apply rfl rfl, Galois.decrypt_eq]
    by_cases hopens : (payload.length ≤ Galois.maxLength + Galois.tagLength ∧ header.length ≤ Galois.maxLength) ∧
        tag = Galois.tag key (Nonce.galoisRtp salt ssrc p.roc p.seq) header payload
    · rw [if_pos hopens]
      exact (if_pos hopens).symm
    · rw [if_neg hopens]
      exact (if_neg hopens).symm
  | counterMode hs hk ht =>
    rename_i key salt authKey
    simp only [openRtp, Edit.apply_bind, Edit.apply_get, Edit.apply_lift, slice_mid rfl rfl, hdrop, htake,
      Authenticator.verifyRtp, Authenticator.rtpTag, Authenticator.tag_eq ht, ok_bind]
    by_cases htag : tag = StreamCrypto.rtpTag (.counterMode key salt ⟨authKey, n⟩) ssrc p header payload
    · have hd : decide ((Hmac.digest authKey (header ++ payload ++ beBytes 4 p.roc.toNat)).take n = tag) = true :=
        decide_eq_true htag.symm
      rw [if_pos ⟨trivial, htag⟩]
      simp only [pure, Except.pure, hd, if_true, Edit.apply_bind, Edit.apply_lift,
        CounterMode.transform_eq_crypt hk, Edit.apply_replace,
        overwrite_mid rfl (CounterMode.length_crypt _ _ _)]
      rfl
    · have hd : decide ((Hmac.digest authKey (header ++ payload ++ beBytes 4 p.roc.toNat)).take n = tag) = false :=
        decide_eq_false fun h => htag h.symm
      rw [if_neg (fun h => htag h.2)]
      simp only [pure, Except.pure, hd, Bool.false_eq_true, if_false, Edit.apply_throw]

end StreamCrypto

end SecureRtp
