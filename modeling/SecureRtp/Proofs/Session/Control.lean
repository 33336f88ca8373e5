import SecureRtp.Session.Receive
import SecureRtp.Session.Send
import SecureRtp.Proofs.Session.ControlSeal

namespace SecureRtp

namespace Rtcp

variable {a : Bytes}

theorem ssrc?_append (ha : headerLength ≤ a.length) (b : Bytes) : ssrc? (a ++ b) = ssrc? a := by
  match a, ha with
  | _ :: _ :: _ :: _ :: _ :: _ :: _ :: _ :: _, _ => rfl

theorem le_length_of_ssrc? {ssrc : UInt32} (ha : ssrc? a = some ssrc) : headerLength ≤ a.length := by
  match a, ha with
  | _ :: _ :: _ :: _ :: _ :: _ :: _ :: _ :: _, _ => simp [headerLength]

end Rtcp

open StreamCrypto

variable {ssrc : UInt32} {header payload tag spare : Bytes}

namespace Sender

structure SendsRtcp (s : Sender) (buffer : Bytes) (length : Nat) (ssrc : UInt32) (header payload spare : Bytes) :
    Prop where
  buffer_eq : buffer = header ++ (payload ++ spare)
  length_header : header.length = Rtcp.headerLength
  length_text : header.length + payload.length = length
  room : controlIndexLength + s.crypto.suite.rtcpTagLength ≤ spare.length
  stream : Rtcp.ssrc? header = some ssrc
  seals : s.crypto.rtcp.Seals (Rtcp.headerLength + controlIndexLength) payload.length

def rtcpWire (s : Sender) (ssrc index : UInt32) (header payload : Bytes) : Bytes :=
  let body := s.crypto.rtcp.rtcpPayload ssrc index payload
  header ++ (body ++ s.crypto.rtcp.rtcpTrailer (s.crypto.rtcp.rtcpTag ssrc index header body (indexWord index))
    (indexWord index))

theorem protectRtcp_append {s : Sender} (hc : s.crypto.Fits) (hh : header.length = Rtcp.headerLength)
    (hs : Rtcp.ssrc? header = some ssrc) (hn : controlIndexLength + s.crypto.suite.rtcpTagLength ≤ spare.length) :
    s.protectRtcp (header ++ (payload ++ spare)) (header.length + payload.length) =
      let index := s.controlIndex ssrc
      let required := header.length + payload.length + controlIndexLength + s.crypto.suite.rtcpTagLength
      if s.crypto.rtcp.Seals (Rtcp.headerLength + controlIndexLength) payload.length then
        ⟨⟨.ok required, s.recordRtcp ssrc index, [.rtcpProtected ssrc index required]⟩,
          s.rtcpWire ssrc index header payload ++ spare.drop (s.crypto.suite.rtcpTagLength + controlIndexLength)⟩
      else ⟨⟨.error (.crypto .sealRefused), s, []⟩, header ++ (payload ++ spare)⟩ := by
  have htake : (header ++ (payload ++ spare)).take (header.length + payload.length) = header ++ payload := by
    rw [← List.append_assoc]
    exact List.take_left' List.length_append
  have hstream : s.rtcpStream (header ++ (payload ++ spare)) (header.length + payload.length) = .ok ssrc := by
    rw [rtcpStream, if_neg (by simp)]
    simp only [htake, Rtcp.ssrc?_append (Nat.le_of_eq hh.symm), hs]
    exact if_neg (by simp; omega)
  simp only [protectRtcp, hstream, StreamCrypto.sealRtcp_apply hc.rtcp ssrc _ header payload spare hh]
  by_cases hl : s.crypto.rtcp.Seals (Rtcp.headerLength + controlIndexLength) payload.length
  · rw [if_pos hl, if_pos hl]
    simp only [rtcpWire, List.append_assoc]
  · rw [if_neg hl, if_neg hl]

theorem exists_of_rtcpStream {s : Sender} {buffer : Bytes} {length : Nat}
    (hr : s.rtcpStream buffer length = .ok ssrc) :
    ∃ header payload spare, buffer = header ++ (payload ++ spare) ∧ header.length = Rtcp.headerLength ∧
      header.length + payload.length = length ∧
      controlIndexLength + s.crypto.suite.rtcpTagLength ≤ spare.length ∧ Rtcp.ssrc? header = some ssrc := by
  unfold rtcpStream at hr
  dsimp only at hr
  split at hr
  · cases hr
  · split at hr
    · cases hr
    · rename_i stream hread
      split at hr
      · cases hr
      · cases hr
        have hl := Rtcp.le_length_of_ssrc? hread
        have hlen : ((buffer.take length).take Rtcp.headerLength).length = Rtcp.headerLength := by
          rw [List.length_take, Nat.min_eq_left hl]
        have hsplit : buffer = (buffer.take length).take Rtcp.headerLength ++
            ((buffer.take length).drop Rtcp.headerLength ++ buffer.drop length) := by
          rw [← List.append_assoc, List.take_append_drop, List.take_append_drop]
        refine ⟨_, _, _, hsplit, hlen, ?_, ?_, ?_⟩
        · rw [hlen, List.length_drop, List.length_take]
          rw [List.length_take] at hl
          omega
        · rw [List.length_drop]
          omega
        · rw [← hread]
          conv => rhs; rw [← List.take_append_drop Rtcp.headerLength (buffer.take length)]
          apply (Rtcp.ssrc?_append _ _).symm
          exact Nat.le_of_eq hlen.symm

theorem SendsRtcp.protectRtcp {s : Sender} {buffer : Bytes} {length : Nat}
    (hs : s.SendsRtcp buffer length ssrc header payload spare) (hc : s.crypto.Fits) :
    s.protectRtcp buffer length =
      let index := s.controlIndex ssrc
      let required := length + controlIndexLength + s.crypto.suite.rtcpTagLength
      ⟨⟨.ok required, s.recordRtcp ssrc index, [.rtcpProtected ssrc index required]⟩,
        s.rtcpWire ssrc index header payload ++ spare.drop (s.crypto.suite.rtcpTagLength + controlIndexLength)⟩ := by
  rw [hs.buffer_eq, ← hs.length_text, protectRtcp_append hc hs.length_header hs.stream hs.room, if_pos hs.seals]

theorem SendsRtcp.length_rtcpWire {s : Sender} {buffer : Bytes} {length : Nat}
    (hs : s.SendsRtcp buffer length ssrc header payload spare) (hc : s.crypto.Fits) (index : UInt32) :
    (s.rtcpWire ssrc index header payload).length =
      length + (s.crypto.suite.rtcpTagLength + controlIndexLength) := by
  simp only [rtcpWire, ← hs.length_text, List.length_append, length_rtcpTrailer, length_rtcpPayload,
    hc.rtcp.length_rtcpTag, length_indexWord, Nat.add_assoc]

theorem exists_sendsRtcp {s : Sender} (hc : s.crypto.Fits) {buffer : Bytes} {length n : Nat}
    (hn : (s.protectRtcp buffer length).outcome = .ok n) :
    ∃ ssrc header payload spare, s.SendsRtcp buffer length ssrc header payload spare := by
  cases hh : s.rtcpStream buffer length with
  | error e => simp [Sender.protectRtcp, hh] at hn
  | ok ssrc =>
    obtain ⟨header, payload, spare, rfl, hhead, rfl, hroom, hr⟩ := exists_of_rtcpStream hh
    rw [protectRtcp_append hc hhead hr hroom] at hn
    dsimp only at hn
    split at hn
    · rename_i hl
      exact ⟨ssrc, header, payload, spare, rfl, hhead, rfl, hroom, hr, hl⟩
    · simp at hn

end Sender

namespace Receiver

structure TakesRtcp (r : Receiver) (packet : Bytes) (ssrc : UInt32) (t : ControlTrailer)
    (header payload tag : Bytes) : Prop where
  packet_eq : packet = header ++ (payload ++ r.crypto.rtcp.rtcpTrailer tag (beBytes 4 t.word.toNat))
  length_header : header.length = Rtcp.headerLength
  textEnd_eq : t.textEnd = header.length + payload.length
  length_tag : tag.length = r.crypto.suite.rtcpTagLength
  stream : Rtcp.ssrc? header = some ssrc
  accepts : r.acceptsRtcp ssrc t.index = true
  encrypted : r.crypto.suite.isAead = true → t.encrypted = true
  opens : r.crypto.rtcp.Opens (Rtcp.headerLength + controlIndexLength) payload.length
  tag_eq : tag = r.crypto.rtcp.rtcpTag ssrc t.index header payload (beBytes 4 t.word.toNat)

theorem exists_of_rtcpStream {r : Receiver} {packet : Bytes} (hr : r.rtcpStream packet = .ok ssrc) :
    ∃ header payload tag word,
      packet = header ++ (payload ++ r.crypto.rtcp.rtcpTrailer tag (beBytes 4 (UInt32.toNat word))) ∧
      header.length = Rtcp.headerLength ∧ tag.length = r.crypto.suite.rtcpTagLength ∧
      Rtcp.ssrc? header = some ssrc := by
  unfold rtcpStream at hr
  split at hr
  · cases hr
  · rename_i hl
    split at hr
    · cases hr
    · rename_i stream hread
      cases hr
      obtain ⟨header, payload, tag, word, hp, hh, ht⟩ := r.crypto.rtcp.exists_rtcpTrailer (Nat.le_of_not_lt hl)
      refine ⟨header, payload, tag, word, hp, hh, ht, ?_⟩
      rw [← hread, hp]
      exact (Rtcp.ssrc?_append (Nat.le_of_eq hh.symm) _).symm

theorem rtcpStream_append {r : Receiver} (hh : header.length = Rtcp.headerLength)
    (hs : Rtcp.ssrc? header = some ssrc) (ht : tag.length = r.crypto.suite.rtcpTagLength) (word : UInt32) :
    r.rtcpStream (header ++ (payload ++ r.crypto.rtcp.rtcpTrailer tag (beBytes 4 word.toNat))) = .ok ssrc := by
  rw [rtcpStream, if_neg (by simp [controlIndexLength]; omega)]
  simp only [Rtcp.ssrc?_append (Nat.le_of_eq hh.symm), hs]

theorem unprotectRtcp_append {r : Receiver} (hc : r.crypto.Fits) (settings : Settings)
    (hh : header.length = Rtcp.headerLength) (hs : Rtcp.ssrc? header = some ssrc)
    (ht : tag.length = r.crypto.suite.rtcpTagLength) (word : UInt32) :
    let packet := header ++ (payload ++ r.crypto.rtcp.rtcpTrailer tag (beBytes 4 word.toNat))
    r.unprotectRtcp settings packet =
      let t : ControlTrailer := ⟨header.length + payload.length, word⟩
      if r.acceptsRtcp ssrc t.index then
        if r.crypto.suite.isAead = true ∧ t.encrypted = false then
          ⟨⟨.error (.crypto .unencryptedControl), r, [.unencryptedRefused r.crypto.suite]⟩, packet⟩
        else if r.crypto.rtcp.Opens (Rtcp.headerLength + controlIndexLength) payload.length ∧
            tag = r.crypto.rtcp.rtcpTag ssrc t.index header payload (beBytes 4 word.toNat) then
          ⟨⟨.ok t.textEnd, r.recordRtcp settings.replayWindow ssrc t.index, [.rtcpUnprotected ssrc t.index]⟩,
            header ++ (r.crypto.rtcp.openedControl ssrc t payload ++
              r.crypto.rtcp.rtcpTrailer tag (beBytes 4 word.toNat))⟩
        else ⟨⟨.error .authenticationFailed, r, []⟩, packet⟩
      else ⟨⟨.error (.replayDetected t.index.toUInt64), r, [.rtcpReplayed ssrc t.index]⟩, packet⟩ := by
  intro packet
  have htrailer := r.crypto.rtcp.controlTrailer_eq header payload tag word
  have hopen := openRtcp_apply ssrc word payload tag hh hc.rtcp
  rw [ht] at htrailer
  simp only [Receiver.unprotectRtcp, packet, rtcpStream_append hh hs ht, htrailer]
  split
  · simp only [hopen]
    by_cases hu : r.crypto.suite.isAead = true ∧
        (ControlTrailer.mk (header.length + payload.length) word).encrypted = false
    · rw [if_pos hu, if_pos hu]
      rfl
    · rw [if_neg hu, if_neg hu]
      by_cases hok : r.crypto.rtcp.Opens (Rtcp.headerLength + controlIndexLength) payload.length ∧
          tag = r.crypto.rtcp.rtcpTag ssrc (ControlTrailer.mk (header.length + payload.length) word).index header
            payload (beBytes 4 word.toNat)
      · rw [if_pos hok, if_pos hok]
      · rw [if_neg hok, if_neg hok]
        rfl
  · rfl

theorem TakesRtcp.not_refused {r : Receiver} {packet : Bytes} {t : ControlTrailer}
    (ht : r.TakesRtcp packet ssrc t header payload tag) : ¬(r.crypto.suite.isAead = true ∧ t.encrypted = false) := by
  rintro ⟨haead, he⟩
  rw [ht.encrypted haead] at he
  cases he

theorem TakesRtcp.unprotectRtcp {r : Receiver} {packet : Bytes} {t : ControlTrailer}
    (ht : r.TakesRtcp packet ssrc t header payload tag) (hc : r.crypto.Fits) (settings : Settings) :
    r.unprotectRtcp settings packet =
      ⟨⟨.ok t.textEnd, r.recordRtcp settings.replayWindow ssrc t.index, [.rtcpUnprotected ssrc t.index]⟩,
        header ++ (r.crypto.rtcp.openedControl ssrc t payload ++
          r.crypto.rtcp.rtcpTrailer tag (beBytes 4 t.word.toNat))⟩ := by
  have hnot := ht.not_refused
  obtain ⟨textEnd, word⟩ := t
  obtain ⟨rfl, hh, rfl, hl, hs, ha, -, ho, htag⟩ := ht
  rw [unprotectRtcp_append hc settings hh hs hl, if_pos ha, if_neg hnot, if_pos ⟨ho, htag⟩]

theorem exists_takesRtcp {r : Receiver} (hc : r.crypto.Fits) {settings : Settings} {packet : Bytes} {n : Nat}
    (hn : (r.unprotectRtcp settings packet).outcome = .ok n) :
    ∃ ssrc t header payload tag, r.TakesRtcp packet ssrc t header payload tag ∧ t.textEnd = n := by
  cases hh : r.rtcpStream packet with
  | error e => simp [Receiver.unprotectRtcp, hh] at hn
  | ok ssrc =>
    obtain ⟨header, payload, tag, word, rfl, hl, ht, hs⟩ := exists_of_rtcpStream hh
    rw [unprotectRtcp_append hc settings hl hs ht] at hn
    dsimp only at hn
    split at hn
    · rename_i ha
      split at hn
      · simp at hn
      · rename_i hu
        split at hn
        · rename_i hok
          have hencrypted : r.crypto.suite.isAead = true →
              (ControlTrailer.mk (header.length + payload.length) word).encrypted = true := by
            intro hg
            rw [← Bool.not_eq_false]
            intro he
            exact hu ⟨hg, he⟩
          exact ⟨ssrc, ⟨_, word⟩, header, payload, tag, ⟨rfl, hl, rfl, ht, hs, ha, hencrypted, hok.1, hok.2⟩,
            Except.ok.inj hn⟩
        · simp at hn
    · simp at hn

end Receiver

end SecureRtp
