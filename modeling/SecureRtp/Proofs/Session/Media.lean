import SecureRtp.Session.Receive
import SecureRtp.Session.Send
import SecureRtp.Proofs.Session.Seal
/-!
Whole media packets. Encryption of header values and payload is one map of packets to packets that is its own
inverse. A sender applies it and adds the tag of the result; a receiver checks that tag and applies it again.
-/
namespace SecureRtp

open Rtp

theorem maskPacketHeader_apply {keys : SessionKeys} (hk : (Aes.Key.ofBytes? keys.cipherKey).isSome)
    (ids : List UInt8) (index : UInt64) {header : Bytes} {h : Header} (hr : Header.read? header = some h)
    (rest : Bytes) :
    (maskPacketHeader keys ids h.ssrc index header.length).apply (header ++ rest) =
      (.ok (), maskedHeader keys ids h.ssrc index header ++ rest) := by
  simp only [maskPacketHeader, Edit.apply_bind, Edit.apply_get, List.take_left, maskHeader_eq hk, Edit.apply_lift,
    Edit.apply_replace, overwrite_front (length_maskedHeader hr ids h.ssrc index)]

namespace SessionCrypto

def rtpCrypt (c : SessionCrypto) (ids : List UInt8) (h : Header) (p : Position) (body : Bytes) : Bytes :=
  maskedHeader c.header ids h.ssrc p.index (body.take h.length) ++ c.rtp.rtpPayload h.ssrc p (body.drop h.length)

def rtpTag (c : SessionCrypto) (h : Header) (p : Position) (body : Bytes) : Bytes :=
  c.rtp.rtpTag h.ssrc p (body.take h.length) (body.drop h.length)

def rtpTrailer (c : SessionCrypto) (external : Bool) (h : Header) (p : Position) (body : Bytes) : Bytes :=
  c.rtp.rtpTrailer external h.ssrc p (body.take h.length) (body.drop h.length)

variable {c : SessionCrypto} {h : Header} {body : Bytes}

theorem length_rtpTag (hc : c.Fits) (h : Header) (p : Position) (body : Bytes) :
    (c.rtpTag h p body).length = c.suite.rtpTagLength := hc.rtp.length_rtpTag _ _ _ _

section

variable (hr : Header.read? body = some h)

include hr

theorem length_take_header : (body.take h.length).length = h.length := by
  rw [List.length_take, Nat.min_eq_left (Header.length_le hr)]

theorem length_drop_header : h.length + (body.drop h.length).length = body.length := by
  have := Header.length_le hr
  rw [List.length_drop]
  omega

variable (c) (ids : List UInt8) (p : Position)

theorem length_rtpCrypt : (c.rtpCrypt ids h p body).length = body.length := by
  have hh := Header.read?_header hr
  rw [rtpCrypt, List.length_append, length_maskedHeader hh, StreamCrypto.length_rtpPayload, length_take_header hr,
    length_drop_header hr]

theorem take_rtpCrypt :
    (c.rtpCrypt ids h p body).take h.length = maskedHeader c.header ids h.ssrc p.index (body.take h.length) := by
  have hh := Header.read?_header hr
  exact List.take_left' (by rw [length_maskedHeader hh, length_take_header hr])

theorem drop_rtpCrypt : (c.rtpCrypt ids h p body).drop h.length = c.rtp.rtpPayload h.ssrc p (body.drop h.length) := by
  have hh := Header.read?_header hr
  exact List.drop_left' (by rw [length_maskedHeader hh, length_take_header hr])

theorem read?_rtpCrypt : Header.read? (c.rtpCrypt ids h p body) = some h := by
  have hh := Header.read?_header hr
  exact Header.read?_append (read?_maskedHeader hh ids h.ssrc p.index) _

theorem rtpCrypt_rtpCrypt : c.rtpCrypt ids h p (c.rtpCrypt ids h p body) = body := by
  have hh := Header.read?_header hr
  rw [rtpCrypt, take_rtpCrypt c hr, drop_rtpCrypt c hr, maskedHeader_maskedHeader hh,
    StreamCrypto.rtpPayload_rtpPayload, List.take_append_drop]

end

end SessionCrypto

variable {h : Header} {text body tag : Bytes}

namespace Sender

theorem sealRtp_apply {s : Sender} (hc : s.crypto.Fits) (settings : Settings) (p : Position)
    (hr : Header.read? text = some h) (spare : Bytes) :
    (s.sealRtp settings h p text.length).apply (text ++ spare) =
      if s.crypto.rtp.Seals h.length (text.length - h.length) then
        (.ok (), s.crypto.rtpCrypt settings.encryptedIds h p text ++
          (s.crypto.rtpTrailer settings.externalAuth h p (s.crypto.rtpCrypt settings.encryptedIds h p text) ++
            spare.drop s.crypto.suite.rtpTagLength))
      else (.error (.crypto .sealRefused),
        maskedHeader s.crypto.header settings.encryptedIds h.ssrc p.index (text.take h.length) ++
          (text.drop h.length ++ spare)) := by
  have hh := Header.read?_header hr
  have hlen := SessionCrypto.length_take_header hr
  have hmask : (maskedHeader s.crypto.header settings.encryptedIds h.ssrc p.index (text.take h.length)).length =
      (text.take h.length).length := length_maskedHeader hh _ _ _
  have hm := maskPacketHeader_apply hc.header settings.encryptedIds p.index hh (text.drop h.length ++ spare)
  have hs := StreamCrypto.sealRtp_apply hc.rtp settings.externalAuth h.ssrc p
    (maskedHeader s.crypto.header settings.encryptedIds h.ssrc p.index (text.take h.length)) (text.drop h.length) spare
  rw [← List.append_assoc, List.take_append_drop, hlen] at hm
  rw [hmask, hlen, SessionCrypto.length_drop_header hr, List.length_drop] at hs
  simp only [sealRtp, Edit.apply_bind, hm, hs, SessionCrypto.rtpTrailer, SessionCrypto.take_rtpCrypt _ hr,
    SessionCrypto.drop_rtpCrypt _ hr]
  split
  · rw [SessionCrypto.rtpCrypt, List.append_assoc]
  · rfl

theorem protectRtp_append {s : Sender} (hc : s.crypto.Fits) (settings : Settings) (hr : Header.read? text = some h)
    {spare : Bytes} (hn : s.crypto.suite.rtpTagLength ≤ spare.length) :
    s.protectRtp settings (text ++ spare) text.length =
      let p := s.nextPosition h.ssrc h.seq
      let body := s.crypto.rtpCrypt settings.encryptedIds h p text
      let required := text.length + s.crypto.suite.rtpTagLength
      if s.crypto.rtp.Seals h.length (text.length - h.length) then
        ⟨⟨.ok (required, p.index), s.recordRtp h.ssrc p, [.rtpProtected h.ssrc h.seq p.index required]⟩,
          body ++ (s.crypto.rtpTrailer settings.externalAuth h p body ++ spare.drop s.crypto.suite.rtpTagLength)⟩
      else ⟨⟨.error (.crypto .sealRefused), s, []⟩,
        maskedHeader s.crypto.header settings.encryptedIds h.ssrc p.index (text.take h.length) ++
          (text.drop h.length ++ spare)⟩ := by
  have hhead : s.rtpHeader (text ++ spare) text.length = .ok h := by
    rw [rtpHeader, if_neg (by simp)]
    simp only [List.take_left, hr]
    exact if_neg (by simp; omega)
  simp only [protectRtp, hhead, sealRtp_apply hc settings _ hr]
  by_cases hl : s.crypto.rtp.Seals h.length (text.length - h.length)
  · rw [if_pos hl, if_pos hl]
  · rw [if_neg hl, if_neg hl]

theorem exists_of_rtpHeader {s : Sender} {buffer : Bytes} {length : Nat} (hr : s.rtpHeader buffer length = .ok h) :
    ∃ text spare, buffer = text ++ spare ∧ text.length = length ∧ s.crypto.suite.rtpTagLength ≤ spare.length ∧
      Header.read? text = some h := by
  unfold rtpHeader at hr
  split at hr
  · cases hr
  · split at hr
    · cases hr
    · rename_i header hread
      dsimp only at hr
      split at hr
      · cases hr
      · cases hr
        refine ⟨_, _, (List.take_append_drop length buffer).symm, ?_, ?_, hread⟩
        · rw [List.length_take]
          omega
        · rw [List.length_drop]
          omega

structure SendsRtp (s : Sender) (buffer : Bytes) (length : Nat) (h : Header) (text spare : Bytes) : Prop where
  buffer_eq : buffer = text ++ spare
  length_text : text.length = length
  room : s.crypto.suite.rtpTagLength ≤ spare.length
  header : Header.read? text = some h
  seals : s.crypto.rtp.Seals h.length (text.length - h.length)

theorem SendsRtp.protectRtp {s : Sender} {buffer spare : Bytes} {length : Nat}
    (hs : s.SendsRtp buffer length h text spare) (hc : s.crypto.Fits) (settings : Settings) :
    s.protectRtp settings buffer length =
      let p := s.nextPosition h.ssrc h.seq
      let body := s.crypto.rtpCrypt settings.encryptedIds h p text
      let required := text.length + s.crypto.suite.rtpTagLength
      ⟨⟨.ok (required, p.index), s.recordRtp h.ssrc p, [.rtpProtected h.ssrc h.seq p.index required]⟩,
        body ++ (s.crypto.rtpTrailer settings.externalAuth h p body ++ spare.drop s.crypto.suite.rtpTagLength)⟩ := by
  rw [hs.buffer_eq, ← hs.length_text, protectRtp_append hc settings hs.header hs.room, if_pos hs.seals]

theorem exists_sendsRtp {s : Sender} (hc : s.crypto.Fits) {settings : Settings} {buffer : Bytes} {length : Nat}
    {answer : Nat × UInt64} (hn : (s.protectRtp settings buffer length).outcome = .ok answer) :
    ∃ h text spare, s.SendsRtp buffer length h text spare := by
  cases hh : s.rtpHeader buffer length with
  | error e => simp [Sender.protectRtp, hh] at hn
  | ok h =>
    obtain ⟨text, spare, rfl, rfl, hroom, hr⟩ := exists_of_rtpHeader hh
    rw [protectRtp_append hc settings hr hroom] at hn
    dsimp only at hn
    split at hn
    · rename_i hl
      exact ⟨h, text, spare, rfl, rfl, hroom, hr, hl⟩
    · simp at hn

end Sender

namespace Receiver

theorem openRtp_apply {r : Receiver} (hc : r.crypto.Fits) (settings : Settings) (p : Position)
    (hr : Header.read? body = some h) (tag : Bytes) :
    (r.openRtp settings h p body.length).apply (body ++ tag) =
      if r.crypto.rtp.Opens h.length (body.length - h.length) ∧ tag = r.crypto.rtpTag h p body then
        (.ok (), r.crypto.rtpCrypt settings.encryptedIds h p body ++ tag)
      else (.error .authenticationFailed, body ++ tag) := by
  have hh := Header.read?_header hr
  have hlen := SessionCrypto.length_take_header hr
  have ho := StreamCrypto.openRtp_apply hc.rtp h.ssrc p (body.take h.length) (body.drop h.length) tag
  have hm := maskPacketHeader_apply hc.header settings.encryptedIds p.index hh
    (r.crypto.rtp.rtpPayload h.ssrc p (body.drop h.length) ++ tag)
  rw [← List.append_assoc, List.take_append_drop, hlen, SessionCrypto.length_drop_header hr, List.length_drop] at ho
  rw [hlen] at hm
  by_cases ht : r.crypto.rtp.Opens h.length (body.length - h.length) ∧ tag = r.crypto.rtpTag h p body
  · rw [if_pos ht]
    simp only [openRtp, Edit.apply_bind, ho.trans (if_pos ht), hm, SessionCrypto.rtpCrypt, List.append_assoc]
  · rw [if_neg ht]
    simp only [openRtp, Edit.apply_bind, ho.trans (if_neg ht)]

theorem rtpHeader_append {r : Receiver} (hr : Header.read? body = some h)
    (ht : tag.length = r.crypto.suite.rtpTagLength) : r.rtpHeader (body ++ tag) = .ok h := by
  have hl := Header.length_le hr
  have hf := Header.fixedEnd_le_length hr
  have h12 := Header.fixedLength_le_fixedEnd h
  have hlen : (body ++ tag).length - r.crypto.suite.rtpTagLength = body.length := by
    rw [List.length_append, ht, Nat.add_sub_cancel]
  rw [rtpHeader, if_neg (by rw [List.length_append]; omega)]
  simp only [hlen, List.take_left, hr]

theorem exists_of_rtpHeader {r : Receiver} {packet : Bytes} (hr : r.rtpHeader packet = .ok h) :
    ∃ body tag, packet = body ++ tag ∧ tag.length = r.crypto.suite.rtpTagLength ∧ Header.read? body = some h := by
  unfold rtpHeader at hr
  dsimp only at hr
  split at hr
  · cases hr
  · rename_i hl
    split at hr
    · cases hr
    · rename_i header hread
      cases hr
      refine ⟨_, _, (List.take_append_drop (packet.length - r.crypto.suite.rtpTagLength) packet).symm, ?_, hread⟩
      rw [List.length_drop]
      omega

theorem unprotectRtp_append {r : Receiver} (hc : r.crypto.Fits) (settings : Settings)
    (hr : Header.read? body = some h) (ht : tag.length = r.crypto.suite.rtpTagLength) :
    r.unprotectRtp settings (body ++ tag) =
      let p := r.position h.ssrc h.seq
      if r.acceptsRtp h.ssrc p.index then
        if r.crypto.rtp.Opens h.length (body.length - h.length) ∧ tag = r.crypto.rtpTag h p body then
          ⟨⟨.ok body.length, r.recordRtp settings.replayWindow h.ssrc p, [.rtpUnprotected h.ssrc h.seq p.index]⟩,
            r.crypto.rtpCrypt settings.encryptedIds h p body ++ tag⟩
        else ⟨⟨.error .authenticationFailed, r, []⟩, body ++ tag⟩
      else ⟨⟨.error (.replayDetected p.index), r, [.rtpReplayed h.ssrc p.index]⟩, body ++ tag⟩ := by
  have hlen : (body ++ tag).length - r.crypto.suite.rtpTagLength = body.length := by
    rw [List.length_append, ht, Nat.add_sub_cancel]
  simp only [unprotectRtp, rtpHeader_append hr ht, hlen, openRtp_apply hc settings _ hr]
  split
  · by_cases hok : r.crypto.rtp.Opens h.length (body.length - h.length) ∧
        tag = r.crypto.rtpTag h (r.position h.ssrc h.seq) body
    · rw [if_pos hok, if_pos hok]
    · rw [if_neg hok, if_neg hok]
  · rfl

structure TakesRtp (r : Receiver) (packet : Bytes) (h : Header) (body tag : Bytes) : Prop where
  packet_eq : packet = body ++ tag
  length_tag : tag.length = r.crypto.suite.rtpTagLength
  header : Header.read? body = some h
  accepts : r.acceptsRtp h.ssrc (r.position h.ssrc h.seq).index = true
  opens : r.crypto.rtp.Opens h.length (body.length - h.length)
  tag_eq : tag = r.crypto.rtpTag h (r.position h.ssrc h.seq) body

theorem TakesRtp.unprotectRtp {r : Receiver} {packet : Bytes} (ht : r.TakesRtp packet h body tag)
    (hc : r.crypto.Fits) (settings : Settings) :
    r.unprotectRtp settings packet =
      let p := r.position h.ssrc h.seq
      ⟨⟨.ok body.length, r.recordRtp settings.replayWindow h.ssrc p, [.rtpUnprotected h.ssrc h.seq p.index]⟩,
        r.crypto.rtpCrypt settings.encryptedIds h p body ++ tag⟩ := by
  rw [ht.packet_eq, unprotectRtp_append hc settings ht.header ht.length_tag, if_pos ht.accepts,
    if_pos ⟨ht.opens, ht.tag_eq⟩]

theorem exists_takesRtp {r : Receiver} (hc : r.crypto.Fits) {settings : Settings} {packet : Bytes} {n : Nat}
    (hn : (r.unprotectRtp settings packet).outcome = .ok n) :
    ∃ h body tag, r.TakesRtp packet h body tag ∧ body.length = n := by
  cases hh : r.rtpHeader packet with
  | error e => simp [Receiver.unprotectRtp, hh] at hn
  | ok h =>
    obtain ⟨body, tag, rfl, ht, hr⟩ := exists_of_rtpHeader hh
    rw [unprotectRtp_append hc settings hr ht] at hn
    dsimp only at hn
    split at hn
    · rename_i ha
      split at hn
      · rename_i hok
        exact ⟨h, body, tag, ⟨rfl, ht, hr, ha, hok.1, hok.2⟩, by simpa using hn⟩
      · simp at hn
    · simp at hn

end Receiver

end SecureRtp
