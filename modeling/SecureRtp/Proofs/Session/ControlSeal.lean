import SecureRtp.Proofs.Session.Seal

namespace SecureRtp

theorem toNat_and_controlIndexMask (word : UInt32) :
    (word &&& controlIndexMask).toNat = word.toNat % 0x80000000 := by
  rw [UInt32.toNat_and]
  exact Nat.and_two_pow_sub_one_eq_mod word.toNat 31

theorem and_encryptedFlag_ne_zero (word : UInt32) :
    word &&& encryptedFlag ≠ 0 ↔ 0x80000000 ≤ word.toNat := by
  have hw := word.toNat_lt
  have hdiv : (word &&& encryptedFlag).toNat / 0x80000000 = word.toNat / 0x80000000 % 2 := by
    rw [UInt32.toNat_and, ← Nat.and_one_is_mod]
    exact Nat.and_div_two_pow (a := word.toNat) (b := 0x80000000) (n := 31)
  have hmod : (word &&& encryptedFlag).toNat % 0x80000000 = 0 := by
    rw [UInt32.toNat_and]
    exact (Nat.and_mod_two_pow (a := word.toNat) (b := 0x80000000) (n := 31)).trans (Nat.and_zero _)
  rw [Ne, ← UInt32.toNat_inj, UInt32.toNat_zero]
  omega

@[simp] theorem length_indexWord (index : UInt32) : (indexWord index).length = controlIndexLength := length_beBytes _ _

def controlWord (index : UInt32) : UInt32 := encryptedFlag ||| (index &&& controlIndexMask)

theorem toNat_controlWord (index : UInt32) :
    (controlWord index).toNat = 0x80000000 + index.toNat % 0x80000000 := by
  have hi : index.toNat % 0x80000000 < 2 ^ 31 := by omega
  rw [controlWord, UInt32.toNat_or, toNat_and_controlIndexMask]
  exact (Nat.two_pow_add_eq_or_of_lt hi 1).symm

namespace StreamCrypto

variable {suite : Suite} {n : Nat} {c : StreamCrypto}

namespace ControlTrailer

theorem encrypted_iff (t : ControlTrailer) : t.encrypted = true ↔ 0x80000000 ≤ t.word.toNat := by
  rw [encrypted, bne_iff_ne]
  exact and_encryptedFlag_ne_zero t.word

theorem toNat_index (t : ControlTrailer) : t.index.toNat = t.word.toNat % 0x80000000 :=
  toNat_and_controlIndexMask t.word

theorem encrypted_controlWord (textEnd : Nat) (index : UInt32) :
    (ControlTrailer.mk textEnd (controlWord index)).encrypted = true := by
  rw [encrypted_iff, toNat_controlWord]
  omega

theorem index_controlWord (textEnd : Nat) {index : UInt32} (hi : index.toNat < 0x80000000) :
    (ControlTrailer.mk textEnd (controlWord index)).index = index := by
  apply UInt32.toNat_inj.mp
  rw [toNat_index, toNat_controlWord]
  omega

theorem controlWord_index {t : ControlTrailer} (h : t.encrypted = true) : controlWord t.index = t.word := by
  have hw := t.word.toNat_lt
  have he := t.encrypted_iff.mp h
  apply UInt32.toNat_inj.mp
  rw [toNat_controlWord, toNat_index]
  omega

end ControlTrailer

def rtcpPayload (c : StreamCrypto) (ssrc index : UInt32) (payload : Bytes) : Bytes :=
  match c with
  | galois key salt => Galois.apply key (Nonce.galoisRtcp salt ssrc index) payload
  | counterMode key salt _ => CounterMode.crypt key (Nonce.counterMode salt ssrc index.toUInt64) payload

def rtcpTag (c : StreamCrypto) (ssrc index : UInt32) (header payload word : Bytes) : Bytes :=
  match c with
  | galois key salt => Galois.tag key (Nonce.galoisRtcp salt ssrc index) (header ++ word) payload
  | counterMode _ _ auth => (Hmac.digest auth.key (header ++ payload ++ word)).take auth.tagLength

def rtcpTrailer (c : StreamCrypto) (tag word : Bytes) : Bytes :=
  match c with
  | galois .. => tag ++ word
  | counterMode .. => word ++ tag

@[simp] theorem length_rtcpPayload (c : StreamCrypto) (ssrc index : UInt32) (payload : Bytes) :
    (c.rtcpPayload ssrc index payload).length = payload.length := by
  cases c <;> simp [rtcpPayload]

theorem rtcpPayload_rtcpPayload (c : StreamCrypto) (ssrc index : UInt32) (payload : Bytes) :
    c.rtcpPayload ssrc index (c.rtcpPayload ssrc index payload) = payload := by
  cases c with
  | galois => exact Galois.apply_apply _ _ _
  | counterMode => exact CounterMode.crypt_crypt _ _ _

@[simp] theorem length_rtcpTrailer (c : StreamCrypto) (tag word : Bytes) :
    (c.rtcpTrailer tag word).length = tag.length + word.length := by
  cases c with
  | galois => exact List.length_append
  | counterMode => exact List.length_append.trans (Nat.add_comm _ _)

theorem Fits.length_rtcpTag (hc : c.Fits suite n) (ssrc index : UInt32) (header payload word : Bytes) :
    (c.rtcpTag ssrc index header payload word).length = n := by
  cases hc with
  | galois hs ht => exact (Galois.length_tag _ _ _ _).trans ht.symm
  | counterMode hs hk ht =>
    rw [rtcpTag, List.length_take, Hmac.length_digest]
    exact Nat.min_eq_left ht

theorem exists_rtcpTrailer (c : StreamCrypto) {packet : Bytes}
    (hl : Rtcp.headerLength + controlIndexLength + n ≤ packet.length) :
    ∃ header payload tag word, packet = header ++ (payload ++ c.rtcpTrailer tag (beBytes 4 (UInt32.toNat word))) ∧
      header.length = Rtcp.headerLength ∧ tag.length = n := by
  simp only [Rtcp.headerLength, controlIndexLength] at hl ⊢
  obtain ⟨m, hm⟩ : ∃ m, packet.length = 8 + (m + (4 + n)) := ⟨packet.length - 8 - (4 + n), by omega⟩
  have hsplit : packet = packet.take 8 ++ ((packet.drop 8).take m ++ (packet.drop 8).drop m) := by
    rw [List.take_append_drop, List.take_append_drop]
  have hrest : ((packet.drop 8).drop m).length = 4 + n := by simp; omega
  generalize (packet.drop 8).drop m = rest at hsplit hrest
  cases c with
  | galois key salt =>
    refine ⟨packet.take 8, (packet.drop 8).take m, rest.take n, UInt32.ofNat (beNat (rest.drop n)), ?_,
      by simp; omega, by simp; omega⟩
    rw [rtcpTrailer, beBytes_ofNat_beNat (by simp; omega), List.take_append_drop]
    exact hsplit
  | counterMode key salt auth =>
    refine ⟨packet.take 8, (packet.drop 8).take m, rest.drop 4, UInt32.ofNat (beNat (rest.take 4)), ?_,
      by simp; omega, by simp; omega⟩
    rw [rtcpTrailer, beBytes_ofNat_beNat (by simp; omega), List.take_append_drop]
    exact hsplit

theorem controlTrailer_eq (c : StreamCrypto) (header payload tag : Bytes) (word : UInt32) :
    c.controlTrailer (header ++ (payload ++ c.rtcpTrailer tag (beBytes 4 word.toNat))) tag.length =
      ⟨header.length + payload.length, word⟩ := by
  have hend : (header ++ (payload ++ c.rtcpTrailer tag (beBytes 4 word.toNat))).length - tag.length -
      controlIndexLength = header.length + payload.length := by
    simp [controlIndexLength]
    omega
  simp only [controlTrailer, hend]
  congr 1
  cases c with
  | galois key salt =>
    have hstart : (header ++ (payload ++ (tag ++ beBytes 4 word.toNat))).length - controlIndexLength =
        (header ++ payload ++ tag).length := by
      simp [controlIndexLength]
      omega
    have hs : slice (header ++ payload ++ tag ++ (beBytes 4 word.toNat ++ []))
        (header ++ payload ++ tag).length ((header ++ payload ++ tag).length + controlIndexLength) =
        beBytes 4 word.toNat := slice_mid rfl (by simp [controlIndexLength])
    rw [List.append_nil, List.append_assoc, List.append_assoc] at hs
    simp only [rtcpTrailer, hstart, hs, ofNat_beNat_beBytes]
  | counterMode key salt auth =>
    have hs : slice (header ++ payload ++ (beBytes 4 word.toNat ++ tag)) (header.length + payload.length)
        (header.length + payload.length + controlIndexLength) = beBytes 4 word.toNat :=
      slice_mid (by simp) (by simp [controlIndexLength])
    simp only [List.append_assoc] at hs
    simp only [rtcpTrailer, hs, ofNat_beNat_beBytes]

theorem sealRtcp_eq_sealPart (key : Aes.Key) (salt : Bytes) (ssrc index : UInt32) (length : Nat) :
    sealRtcp (.galois key salt) ssrc index length = (do
      let packet ← get
      let tag ← Galois.sealPart key (Nonce.galoisRtcp salt ssrc index)
        (packet.take Rtcp.headerLength ++ indexWord index) Rtcp.headerLength length
      Edit.replace length tag
      Edit.replace (length + tag.length) (indexWord index)) := by
  simp only [sealRtcp, Galois.sealPart, bind_assoc, pure_bind]
  rfl

theorem sealRtcp_apply (hc : c.Fits suite n) (ssrc index : UInt32) (header payload spare : Bytes)
    (hh : header.length = Rtcp.headerLength) :
    (c.sealRtcp ssrc index (header.length + payload.length)).apply (header ++ (payload ++ spare)) =
      if c.Seals (Rtcp.headerLength + controlIndexLength) payload.length then
        (.ok (), header ++ (c.rtcpPayload ssrc index payload ++
          (c.rtcpTrailer (c.rtcpTag ssrc index header (c.rtcpPayload ssrc index payload) (indexWord index))
            (indexWord index) ++ spare.drop (n + controlIndexLength))))
      else (.error (.crypto .sealRefused), header ++ (payload ++ spare)) := by
  have hlen := hc.length_rtcpTag ssrc index header (c.rtcpPayload ssrc index payload) (indexWord index)
  have hword := length_indexWord index
  have haad : (header ++ indexWord index).length = Rtcp.headerLength + controlIndexLength := by
    rw [List.length_append, hh, hword]
  have htake (text : Bytes) : (header ++ text).take Rtcp.headerLength = header := by rw [← hh, List.take_left]
  have hslice (text rest : Bytes) :
      slice (header ++ (text ++ rest)) Rtcp.headerLength (header.length + text.length) = text :=
    slice_mid hh.symm rfl
  -- The trailer is written in two parts behind the text.
  have hwrite (text x y : Bytes) (htext : text.length = payload.length)
      (hxy : x.length + y.length = n + controlIndexLength) :
      overwrite (overwrite (header ++ (text ++ spare)) (header.length + payload.length) x)
          (header.length + payload.length + x.length) y =
        header ++ (text ++ ((x ++ y) ++ spare.drop (n + controlIndexLength))) := by
    rw [← List.append_assoc, overwrite_overwrite_append (by simp [htext]), hxy]
    simp only [List.append_assoc]
  cases hc with
  | galois hs ht =>
    rename_i key salt
    rw [sealRtcp_eq_sealPart]
    simp only [Edit.apply_bind, Edit.apply_get, htake, Galois.sealPart_apply hh.symm rfl, Galois.encrypt_eq, haad]
    by_cases hfits : payload.length ≤ Galois.maxLength ∧ Rtcp.headerLength + controlIndexLength ≤ Galois.maxLength
    · rw [if_pos hfits]
      simp only [Edit.apply_replace]
      apply Eq.trans _ (if_pos hfits).symm
      exact congrArg _ (hwrite _ _ _ (Galois.length_apply _ _ _) (by rw [Galois.length_tag, hword, ht]))
    · rw [if_neg hfits]
      exact (if_neg hfits).symm
  | counterMode hs hk ht =>
    rename_i key salt authKey
    have hl : StreamCrypto.Seals (.counterMode key salt ⟨authKey, n⟩) (Rtcp.headerLength + controlIndexLength)
        payload.length := trivial
    rw [if_pos hl]
    simp only [sealRtcp, Edit.apply_bind, Edit.apply_get, Edit.apply_lift, hslice,
      CounterMode.transform_eq_crypt hk, Edit.apply_replace,
      overwrite_mid hh.symm (CounterMode.length_crypt _ _ _)]
    have htext (text : Bytes) (ht : text.length = payload.length) :
        (overwrite (header ++ (text ++ spare)) (header.length + payload.length) (indexWord index)).take
          (header.length + payload.length + controlIndexLength) = header ++ text ++ indexWord index := by
      rw [← List.append_assoc, overwrite_append (by simp [ht]), ← List.append_assoc]
      exact List.take_left' (by simp [hword, ht, Nat.add_assoc])
    simp only [htext _ (CounterMode.length_crypt _ _ _), Authenticator.rtcpTag, Authenticator.tag_eq ht]
    rw [← hword] at hwrite ⊢
    exact congrArg _ (hwrite _ _ _ (CounterMode.length_crypt _ _ _)
      ((congrArg _ hlen).trans (Nat.add_comm _ _)))

def openedControl (c : StreamCrypto) (ssrc : UInt32) (t : ControlTrailer) (payload : Bytes) : Bytes :=
  if t.encrypted then c.rtcpPayload ssrc t.index payload else payload

@[simp] theorem length_openedControl (c : StreamCrypto) (ssrc : UInt32) (t : ControlTrailer) (payload : Bytes) :
    (c.openedControl ssrc t payload).length = payload.length := by
  unfold openedControl
  split
  · exact length_rtcpPayload _ _ _ _
  · rfl

theorem openRtcp_eq_openPart (key : Aes.Key) (salt : Bytes) (ssrc : UInt32) {t : ControlTrailer}
    (ht : t.encrypted = true) :
    openRtcp (.galois key salt) ssrc t = (do
      let packet ← get
      let wordStart := packet.length - controlIndexLength
      Galois.openPart key (Nonce.galoisRtcp salt ssrc t.index)
        (packet.take Rtcp.headerLength ++ packet.drop wordStart) (slice packet t.textEnd wordStart)
        Rtcp.headerLength t.textEnd) := by
  simp only [openRtcp, ht, if_true]
  rfl

section

variable (ssrc word : UInt32) {header : Bytes} (payload tag : Bytes) (hh : header.length = Rtcp.headerLength)

include hh

theorem openRtcp_galois (key : Aes.Key) (salt : Bytes) :
    let c := StreamCrypto.galois key salt
    let t : ControlTrailer := ⟨header.length + payload.length, word⟩
    let trailer := c.rtcpTrailer tag (beBytes 4 word.toNat)
    (c.openRtcp ssrc t).apply (header ++ (payload ++ trailer)) =
      if t.encrypted = false then (.error (.crypto .unencryptedControl), header ++ (payload ++ trailer))
      else if c.Opens (Rtcp.headerLength + controlIndexLength) payload.length ∧
          tag = c.rtcpTag ssrc t.index header payload (beBytes 4 word.toNat) then
        (.ok (), header ++ (c.openedControl ssrc t payload ++ trailer))
      else (.error .authenticationFailed, header ++ (payload ++ trailer)) := by
  intro c t trailer
  have htake : (header ++ (payload ++ trailer)).take Rtcp.headerLength = header := by rw [← hh, List.take_left]
  have haad : (header ++ beBytes 4 word.toNat).length = Rtcp.headerLength + controlIndexLength := by
    rw [List.length_append, hh, length_beBytes, controlIndexLength]
  have hassoc : header ++ (payload ++ trailer) = header ++ payload ++ tag ++ beBytes 4 word.toNat := by
    simp [trailer, c, rtcpTrailer]
  have hend : (header ++ (payload ++ trailer)).length - controlIndexLength = (header ++ payload ++ tag).length := by
    rw [hassoc, List.length_append, length_beBytes, controlIndexLength, Nat.add_sub_cancel]
  have htag : slice (header ++ (payload ++ trailer)) t.textEnd (header ++ payload ++ tag).length = tag := by
    rw [← List.append_assoc]
    exact slice_mid (by simp [t]) (by simp [Nat.add_assoc])
  have hdrop : (header ++ (payload ++ trailer)).drop (header ++ payload ++ tag).length = beBytes 4 word.toNat := by
    rw [hassoc, List.drop_left]
  cases he : t.encrypted with
  | false => simp only [c, openRtcp, Edit.apply_bind, Edit.apply_get, he, Bool.false_eq_true, if_false,
      Edit.apply_throw, if_true]
  | true =>
    have hstop : t.textEnd = header.length + payload.length := rfl
    rw [openRtcp_eq_openPart key salt ssrc he]
    simp only [Edit.apply_bind, Edit.apply_get, htake, hend, htag, hdrop, Galois.openPart_apply hh.symm hstop,
      Galois.decrypt_eq, haad, Bool.true_eq_false, if_false]
    by_cases hopens : (payload.length ≤ Galois.maxLength + Galois.tagLength ∧
        Rtcp.headerLength + controlIndexLength ≤ Galois.maxLength) ∧
        tag = Galois.tag key (Nonce.galoisRtcp salt ssrc t.index) (header ++ beBytes 4 word.toNat) payload
    · rw [if_pos hopens, openedControl, he]
      exact (if_pos hopens).symm
    · rw [if_neg hopens]
      exact (if_neg hopens).symm

theorem openRtcp_counterMode {key : Bytes} (hk : (Aes.Key.ofBytes? key).isSome) (hn : n ≤ 20)
    (salt authKey : Bytes) :
    let c := StreamCrypto.counterMode key salt ⟨authKey, n⟩
    let t : ControlTrailer := ⟨header.length + payload.length, word⟩
    let trailer := c.rtcpTrailer tag (beBytes 4 word.toNat)
    (c.openRtcp ssrc t).apply (header ++ (payload ++ trailer)) =
      if tag = c.rtcpTag ssrc t.index header payload (beBytes 4 word.toNat) then
        (.ok (), header ++ (c.openedControl ssrc t payload ++ trailer))
      else (.error .authenticationFailed, header ++ (payload ++ trailer)) := by
  intro c t trailer
  have hslice : slice (header ++ (payload ++ trailer)) Rtcp.headerLength t.textEnd = payload := slice_mid hh.symm rfl
  have hassoc : header ++ (payload ++ trailer) = header ++ payload ++ beBytes 4 word.toNat ++ tag := by
    simp [trailer, c, rtcpTrailer]
  have hstart : t.textEnd + controlIndexLength = (header ++ payload ++ beBytes 4 word.toNat).length := by
    simp [t, controlIndexLength, Nat.add_assoc]
  have hwhole : (header ++ (payload ++ trailer)).take (t.textEnd + controlIndexLength) =
      header ++ payload ++ beBytes 4 word.toNat := by
    rw [hstart, hassoc, List.take_left]
  have hrest : (header ++ (payload ++ trailer)).drop (t.textEnd + controlIndexLength) = tag := by
    rw [hstart, hassoc, List.drop_left]
  simp only [c, openRtcp, Edit.apply_bind, Edit.apply_get, Edit.apply_lift, hwhole, hrest, hslice,
    Authenticator.verifyRtcp, Authenticator.rtcpTag, Authenticator.tag_eq hn, ok_bind]
  by_cases ht : tag = c.rtcpTag ssrc t.index header payload (beBytes 4 word.toNat)
  · have hd : decide ((Hmac.digest authKey (header ++ payload ++ beBytes 4 word.toNat)).take n = tag) = true :=
      decide_eq_true ht.symm
    rw [if_pos ht]
    simp only [pure, Except.pure, hd, if_true]
    cases he : t.encrypted with
    | true =>
      simp only [if_true, Edit.apply_bind, Edit.apply_lift, CounterMode.transform_eq_crypt hk, Edit.apply_replace,
        overwrite_mid hh.symm (CounterMode.length_crypt _ _ _), openedControl, he]
      rfl
    | false =>
      simp only [openedControl, he]
      rfl
  · have hd : decide ((Hmac.digest authKey (header ++ payload ++ beBytes 4 word.toNat)).take n = tag) = false :=
      decide_eq_false fun h => ht h.symm
    rw [if_neg ht]
    simp only [pure, Except.pure, hd, Bool.false_eq_true, if_false, Edit.apply_throw]

theorem openRtcp_apply (hc : c.Fits suite n) :
    let t : ControlTrailer := ⟨header.length + payload.length, word⟩
    let trailer := c.rtcpTrailer tag (beBytes 4 word.toNat)
    (c.openRtcp ssrc t).apply (header ++ (payload ++ trailer)) =
      if suite.isAead = true ∧ t.encrypted = false then
        (.error (.crypto .unencryptedControl), header ++ (payload ++ trailer))
      else if c.Opens (Rtcp.headerLength + controlIndexLength) payload.length ∧
          tag = c.rtcpTag ssrc t.index header payload (beBytes 4 word.toNat) then
        (.ok (), header ++ (c.openedControl ssrc t payload ++ trailer))
      else (.error .authenticationFailed, header ++ (payload ++ trailer)) := by
  cases hc with
  | galois hs ht =>
    simp only [hs, true_and]
    exact openRtcp_galois ssrc word payload tag hh _ _
  | counterMode hs hk ht =>
    simp only [hs, Bool.false_eq_true, false_and, if_false, Opens, true_and]
    exact openRtcp_counterMode ssrc word payload tag hh hk ht _ _

end

end StreamCrypto

end SecureRtp
