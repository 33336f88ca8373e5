import SecureRtp.Proofs.Packet.SendTime
import SecureRtp.Proofs.Session.Media
import SecureRtp.Proofs.Session.Position

namespace SecureRtp

open Rtp

namespace Rtp

variable {id : Option UInt8} {a : Bytes} {h : Header}

theorem withSendTime_maskedHeader (hr : Header.read? a = some h) (ms : UInt64) {ids : List UInt8}
    (hid : ∀ i, id = some i → i ∉ ids) (keys : SessionKeys) (ssrc : UInt32) (index : UInt64) :
    withSendTime id ms (maskedHeader keys ids ssrc index a) =
      maskedHeader keys ids ssrc index (withSendTime id ms a) := by
  have hmasked (i : Nat) : (∃ d ∈ maskedElements ids (withSendTime id ms a), d.Contains i) ↔
      ∃ d ∈ maskedElements ids a, d.Contains i := by
    rw [maskedElements, maskedElements, elements_withSendTime id hr]
  apply List.ext_getElem?
  intro i
  rw [getElem?_withSendTime, getElem?_maskedHeader (read?_withSendTime id hr ms), getElem?_maskedHeader hr,
    sendTimeElement?_congr (elements_maskedHeader hr ids ssrc index), length_withSendTime]
  simp only [hmasked, getElem?_xorBytes, getElem?_withSendTime]
  cases he : sendTimeElement? id a with
  | none => rfl
  | some e =>
    obtain ⟨hm, heid, -⟩ := mem_of_sendTimeElement? he
    by_cases hi : e.Contains i
    · -- Elements do not overlap, so that a masked one here would be the one of the time.
      have hclear : ¬∃ d ∈ maskedElements ids a, d.Contains i := by
        rintro ⟨d, hd, hdi⟩
        obtain ⟨hd, hlisted⟩ := List.mem_filter.mp hd
        rw [(inOrder_elements hr).eq_of_contains hd hm hdi hi] at hlisted
        exact hid e.id heid (List.contains_iff_mem.mp hlisted)
      simp only [if_pos hi, if_neg hclear]
    · simp only [if_neg hi]

end Rtp

namespace TimeParams

theorem apply_append {a : Bytes} {h : Header} (hr : Header.read? a = some h) {key tag : Bytes} (hk : key ≠ [])
    {n : Nat} (hlen : tag.length = n) (ht : 0 < n) (hn : n ≤ 20) (id : Option UInt8) (position : Position)
    (ms : UInt64) :
    (TimeParams.mk id key n (some position.index)).apply ms (a ++ tag) = (.ok (), withSendTime id ms a ++
      (Hmac.digest key (withSendTime id ms a ++ beBytes 4 position.roc.toNat)).take n) := by
  subst hlen
  have hkey : key.isEmpty = false := by simpa using hk
  have hl := length_withSendTime id ms a
  generalize htimed : withSendTime id ms a = timed at hl ⊢
  have hfixed := Nat.le_trans (Header.fixedLength_le_fixedEnd h) (Header.fixedEnd_le_length hr)
  have hfits := Header.length_le hr
  have hstart : (timed ++ tag).length - tag.length = timed.length := by
    rw [List.length_append, Nat.add_sub_cancel]
  have htag : (TimeParams.mk id key tag.length (some position.index)).tag (timed ++ tag) =
      .ok ((Hmac.digest key (timed ++ beBytes 4 position.roc.toNat)).take tag.length) := by
    have hroom : ¬(tag.length = 0 ∨ (timed ++ tag).length < fixedLength + tag.length) := by
      rw [List.length_append]
      omega
    rw [TimeParams.tag, if_neg hroom]
    simp only [Position.roc_index]
    rw [hstart, List.take_left, if_neg]
    rw [Hmac.length_digest]
    omega
  have hdigest : ((Hmac.digest key (timed ++ beBytes 4 position.roc.toNat)).take tag.length).length = tag.length := by
    rw [List.length_take, Hmac.length_digest, Nat.min_eq_left hn]
  rw [apply, stamp_eq, withSendTime_append id hr, htimed]
  simp only [hkey, htag, Bool.false_eq_true, if_false]
  rw [overwrite_append hstart, hdigest, List.drop_length, List.append_nil]

end TimeParams

namespace SessionCrypto

variable {c : SessionCrypto} {id : Option UInt8} {ids : List UInt8} {text : Bytes} {h : Header}

theorem withSendTime_rtpCrypt (hr : Header.read? text = some h) (hid : ∀ i, id = some i → i ∉ ids) (p : Position)
    (ms : UInt64) :
    withSendTime id ms (c.rtpCrypt ids h p text) = c.rtpCrypt ids h p (withSendTime id ms text) := by
  have hh := Header.read?_header hr
  have hsplit : withSendTime id ms text = withSendTime id ms (text.take h.length) ++ text.drop h.length := by
    rw [← withSendTime_append id hh, List.take_append_drop]
  have hfront : (withSendTime id ms (text.take h.length)).length = h.length := by
    rw [length_withSendTime, length_take_header hr]
  rw [hsplit, rtpCrypt, rtpCrypt, List.take_left' hfront, List.drop_left' hfront,
    withSendTime_append id (read?_maskedHeader hh _ _ _), withSendTime_maskedHeader hh ms hid]

def rtpWire (c : SessionCrypto) (external : Bool) (ids : List UInt8) (h : Header) (p : Position) (text : Bytes) :
    Bytes :=
  c.rtpCrypt ids h p text ++ c.rtpTrailer external h p (c.rtpCrypt ids h p text)

theorem rtpTrailer_of_counterMode {key salt : Bytes} {auth : Authenticator} (hc : c.rtp = .counterMode key salt auth)
    (external : Bool) (h : Header) (p : Position) (body : Bytes) :
    c.rtpTrailer external h p body =
      if external then zeros auth.tagLength
      else (Hmac.digest auth.key (body ++ beBytes 4 p.roc.toNat)).take auth.tagLength := by
  cases external with
  | true => simp only [rtpTrailer, StreamCrypto.rtpTrailer, hc, if_true]
  | false =>
    simp only [rtpTrailer, StreamCrypto.rtpTrailer_false, hc, StreamCrypto.rtpTag, List.take_append_drop]
    rfl

theorem apply_rtpWire {key salt : Bytes} {auth : Authenticator} (hc : c.rtp = .counterMode key salt auth)
    (hk : auth.key ≠ []) (ht : 0 < auth.tagLength) (hn : auth.tagLength ≤ 20) (hr : Header.read? text = some h)
    (hid : ∀ i, id = some i → i ∉ ids) (p : Position) (ms : UInt64) :
    (TimeParams.mk id auth.key auth.tagLength (some p.index)).apply ms (c.rtpWire true ids h p text) =
      (.ok (), c.rtpWire false ids h p (withSendTime id ms text)) := by
  have hzeros := length_zeros auth.tagLength
  have happly := TimeParams.apply_append (read?_rtpCrypt c hr ids p) hk hzeros ht hn id p ms
  rw [withSendTime_rtpCrypt hr hid] at happly
  rw [rtpWire, rtpWire, rtpTrailer_of_counterMode hc, rtpTrailer_of_counterMode hc]
  exact happly

end SessionCrypto

end SecureRtp
