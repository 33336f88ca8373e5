import SecureRtp.Proofs.Session.Checked
import SecureRtp.Proofs.Session.Run

namespace SecureRtp

open StreamCrypto

namespace StreamCrypto

theorem opens_of_lt (c : StreamCrypto) {aad text : Nat} (ha : aad < Galois.maxLength) (ht : text < Galois.maxLength) :
    c.Opens aad text := (c.seals_of_le (Nat.le_of_lt ha) (Nat.le_of_lt ht)).opens

end StreamCrypto

namespace Receiver

def leastRtp (r : Receiver) : Nat := Rtp.fixedLength + r.crypto.suite.rtpTagLength

def leastRtcp (r : Receiver) : Nat := Rtcp.headerLength + controlIndexLength + r.crypto.suite.rtcpTagLength

def rtpBody (r : Receiver) (packet : Bytes) : Bytes := packet.take (packet.length - r.crypto.suite.rtpTagLength)

def rtpReceivedTag (r : Receiver) (packet : Bytes) : Bytes :=
  packet.drop (packet.length - r.crypto.suite.rtpTagLength)

def rtpExpectedTag (r : Receiver) (packet : Bytes) (h : Rtp.Header) : Bytes :=
  r.crypto.rtpTag h (r.position h.ssrc h.seq) (r.rtpBody packet)

def rtcpTrailer (r : Receiver) (packet : Bytes) : ControlTrailer :=
  r.crypto.rtcp.controlTrailer packet r.crypto.suite.rtcpTagLength

def rtcpReceivedTag (r : Receiver) (packet : Bytes) : Bytes :=
  let textEnd := (r.rtcpTrailer packet).textEnd
  if r.crypto.suite.isAead then slice packet textEnd (textEnd + r.crypto.suite.rtcpTagLength)
  else packet.drop (textEnd + controlIndexLength)

def rtcpExpectedTag (r : Receiver) (packet : Bytes) (ssrc : UInt32) : Bytes :=
  let t := r.rtcpTrailer packet
  r.crypto.rtcp.rtcpTag ssrc t.index (packet.take Rtcp.headerLength) (slice packet Rtcp.headerLength t.textEnd)
    (beBytes 4 t.word.toNat)

def ReplaysRtp (r : Receiver) (ssrc : UInt32) (index : UInt64) : Prop :=
  ∃ stream, r.streams[ssrc]? = some stream ∧ stream.window.accepts index = false

def ReplaysRtcp (r : Receiver) (ssrc index : UInt32) : Prop :=
  ∃ window, r.controlWindows[ssrc]? = some window ∧ window.accepts index.toUInt64 = false

def RefusesPlain (r : Receiver) (packet : Bytes) : Prop :=
  r.crypto.suite.isAead = true ∧ (r.rtcpTrailer packet).encrypted = false

theorem replaysRtp_iff (r : Receiver) (ssrc : UInt32) (index : UInt64) :
    r.ReplaysRtp ssrc index ↔ r.acceptsRtp ssrc index = false := by
  unfold ReplaysRtp acceptsRtp
  cases r.streams[ssrc]? <;> simp

theorem replaysRtcp_iff (r : Receiver) (ssrc index : UInt32) :
    r.ReplaysRtcp ssrc index ↔ r.acceptsRtcp ssrc index = false := by
  unfold ReplaysRtcp acceptsRtcp
  cases r.controlWindows[ssrc]? <;> simp

theorem rtpHeader_eq (r : Receiver) (packet : Bytes) :
    r.rtpHeader packet =
      if packet.length < r.leastRtp then .error (.invalidPacket (.protectedTooShort packet.length))
      else
        match Rtp.Header.read? (r.rtpBody packet) with
        | none => .error (.invalidPacket .malformedProtectedHeader)
        | some header => .ok header := rfl

theorem rtcpStream_eq (r : Receiver) (packet : Bytes) :
    r.rtcpStream packet =
      if packet.length < r.leastRtcp then .error (.invalidPacket (.protectedControlTooShort packet.length))
      else
        match Rtcp.ssrc? packet with
        | none => .error (.invalidPacket (.protectedControlTooShort packet.length))
        | some ssrc => .ok ssrc := rfl

theorem read?_rtpBody_of_lt {r : Receiver} {packet : Bytes} (hl : packet.length < r.leastRtp) :
    Rtp.Header.read? (r.rtpBody packet) = none := by
  apply Rtp.Header.read?_of_lt
  rw [rtpBody, List.length_take]
  rw [leastRtp, Rtp.fixedLength] at hl
  rw [Rtp.fixedLength]
  omega

theorem invalidRtp_iff (r : Receiver) (packet : Bytes) :
    packet.length < r.leastRtp ∨ Rtp.headerLength? (r.rtpBody packet) = none ↔
      Rtp.Header.read? (r.rtpBody packet) = none := by
  rw [Rtp.headerLength?, Option.map_eq_none_iff]
  exact ⟨fun h => h.elim read?_rtpBody_of_lt id, .inr⟩

inductive RtpAnswer (r : Receiver) (settings : Settings) (packet : Bytes) : PacketReply Receiver Nat → Prop
  | invalid {fault : PacketFault} (header : Rtp.Header.read? (r.rtpBody packet) = none) :
      RtpAnswer r settings packet ⟨⟨.error (.invalidPacket fault), r, []⟩, packet⟩
  | replayed {h : Rtp.Header} {notices : List Notice} (header : Rtp.Header.read? (r.rtpBody packet) = some h)
      (replays : r.ReplaysRtp h.ssrc (r.position h.ssrc h.seq).index) :
      RtpAnswer r settings packet
        ⟨⟨.error (.replayDetected (r.position h.ssrc h.seq).index), r, notices⟩, packet⟩
  | unauthentic {h : Rtp.Header} (header : Rtp.Header.read? (r.rtpBody packet) = some h)
      (new : ¬r.ReplaysRtp h.ssrc (r.position h.ssrc h.seq).index)
      (tag : r.rtpReceivedTag packet ≠ r.rtpExpectedTag packet h) :
      RtpAnswer r settings packet ⟨⟨.error .authenticationFailed, r, []⟩, packet⟩
  | taken {h : Rtp.Header} {r' : Receiver} {notices : List Notice} {bytes : Bytes}
      (header : Rtp.Header.read? (r.rtpBody packet) = some h)
      (new : ¬r.ReplaysRtp h.ssrc (r.position h.ssrc h.seq).index)
      (tag : r.rtpReceivedTag packet = r.rtpExpectedTag packet h) :
      RtpAnswer r settings packet ⟨⟨.ok (packet.length - r.crypto.suite.rtpTagLength), r', notices⟩, bytes⟩

theorem rtpAnswer_unprotectRtp {r : Receiver} (hc : r.crypto.Fits) (settings : Settings) {packet : Bytes}
    (hl : packet.length < Galois.maxLength) : r.RtpAnswer settings packet (r.unprotectRtp settings packet) := by
  have hbody : (r.rtpBody packet).length = packet.length - r.crypto.suite.rtpTagLength :=
    List.length_take_of_le (Nat.sub_le _ _)
  by_cases hshort : packet.length < r.leastRtp
  · have hreply : r.unprotectRtp settings packet =
        ⟨⟨.error (.invalidPacket (.protectedTooShort packet.length)), r, []⟩, packet⟩ := by
      rw [unprotectRtp, rtpHeader_eq, if_pos hshort]
    rw [hreply]
    exact .invalid (read?_rtpBody_of_lt hshort)
  cases hr : Rtp.Header.read? (r.rtpBody packet) with
  | none =>
    have hreply : r.unprotectRtp settings packet =
        ⟨⟨.error (.invalidPacket .malformedProtectedHeader), r, []⟩, packet⟩ := by
      rw [unprotectRtp, rtpHeader_eq, if_neg hshort, hr]
    rw [hreply]
    exact .invalid hr
  | some h =>
    have htag : (r.rtpReceivedTag packet).length = r.crypto.suite.rtpTagLength := by
      rw [rtpReceivedTag, List.length_drop]
      rw [leastRtp] at hshort
      omega
    have hreply := unprotectRtp_append hc settings hr htag
    have hinside := Rtp.Header.length_le hr
    have hopens : r.crypto.rtp.Opens h.length ((r.rtpBody packet).length - h.length) :=
      r.crypto.rtp.opens_of_lt (by omega) (by omega)
    have hsplit : r.rtpBody packet ++ r.rtpReceivedTag packet = packet := List.take_append_drop _ _
    rw [hsplit, hbody] at hreply
    rw [hbody] at hopens
    simp only [hopens, true_and] at hreply
    rw [hreply]
    by_cases ha : r.acceptsRtp h.ssrc (r.position h.ssrc h.seq).index = true
    · have hnew : ¬r.ReplaysRtp h.ssrc (r.position h.ssrc h.seq).index := by
        rw [replaysRtp_iff, ha]
        exact Bool.noConfusion
      rw [if_pos ha]
      split
      · rename_i ht
        exact .taken hr hnew ht
      · rename_i ht
        exact .unauthentic hr hnew ht
    · rw [if_neg ha]
      exact .replayed hr ((r.replaysRtp_iff _ _).mpr (by simpa using ha))

inductive RtcpAnswer (r : Receiver) (packet : Bytes) : PacketReply Receiver Nat → Prop
  | invalid {fault : PacketFault} (short : packet.length < r.leastRtcp) :
      RtcpAnswer r packet ⟨⟨.error (.invalidPacket fault), r, []⟩, packet⟩
  | replayed {ssrc : UInt32} {notices : List Notice}
      (room : r.leastRtcp ≤ packet.length) (stream : Rtcp.ssrc? packet = some ssrc)
      (replays : r.ReplaysRtcp ssrc (r.rtcpTrailer packet).index) :
      RtcpAnswer r packet ⟨⟨.error (.replayDetected (r.rtcpTrailer packet).index.toUInt64), r, notices⟩, packet⟩
  | unencrypted {ssrc : UInt32} {notices : List Notice}
      (room : r.leastRtcp ≤ packet.length) (stream : Rtcp.ssrc? packet = some ssrc)
      (new : ¬r.ReplaysRtcp ssrc (r.rtcpTrailer packet).index) (plain : r.RefusesPlain packet) :
      RtcpAnswer r packet ⟨⟨.error (.crypto .unencryptedControl), r, notices⟩, packet⟩
  | unauthentic {ssrc : UInt32}
      (room : r.leastRtcp ≤ packet.length) (stream : Rtcp.ssrc? packet = some ssrc)
      (new : ¬r.ReplaysRtcp ssrc (r.rtcpTrailer packet).index)
      (encrypted : ¬r.RefusesPlain packet) (tag : r.rtcpReceivedTag packet ≠ r.rtcpExpectedTag packet ssrc) :
      RtcpAnswer r packet ⟨⟨.error .authenticationFailed, r, []⟩, packet⟩
  | taken {ssrc : UInt32} {r' : Receiver} {notices : List Notice} {bytes : Bytes}
      (room : r.leastRtcp ≤ packet.length) (stream : Rtcp.ssrc? packet = some ssrc)
      (new : ¬r.ReplaysRtcp ssrc (r.rtcpTrailer packet).index)
      (encrypted : ¬r.RefusesPlain packet) (tag : r.rtcpReceivedTag packet = r.rtcpExpectedTag packet ssrc) :
      RtcpAnswer r packet
        ⟨⟨.ok (packet.length - r.crypto.suite.rtcpTagLength - controlIndexLength), r', notices⟩, bytes⟩

theorem rtcpReceivedTag_append {r : Receiver} (hc : r.crypto.Fits) {header payload tag : Bytes} {word : UInt32}
    (ht : tag.length = r.crypto.suite.rtcpTagLength) :
    r.rtcpReceivedTag (header ++ (payload ++ r.crypto.rtcp.rtcpTrailer tag (beBytes 4 word.toNat))) = tag := by
  have htrailer := r.crypto.rtcp.controlTrailer_eq header payload tag word
  rw [ht] at htrailer
  have hf := hc.rtcp
  simp only [rtcpReceivedTag, Receiver.rtcpTrailer, htrailer]
  generalize r.crypto.rtcp = c at hf
  cases hf with
  | galois hs hn =>
    rw [if_pos hs, StreamCrypto.rtcpTrailer, ← List.append_assoc]
    exact slice_mid (List.length_append).symm (by rw [List.length_append, ht])
  | counterMode hs hk hn =>
    rw [if_neg (by simp [hs]), StreamCrypto.rtcpTrailer, ← List.append_assoc, ← List.append_assoc]
    apply List.drop_left'
    simp [controlIndexLength, Nat.add_assoc]

theorem rtcpAnswer_unprotectRtcp {r : Receiver} (hc : r.crypto.Fits) (settings : Settings) {packet : Bytes}
    (hl : packet.length < Galois.maxLength) : r.RtcpAnswer packet (r.unprotectRtcp settings packet) := by
  by_cases hshort : packet.length < r.leastRtcp
  · have hreply : r.unprotectRtcp settings packet =
        ⟨⟨.error (.invalidPacket (.protectedControlTooShort packet.length)), r, []⟩, packet⟩ := by
      rw [unprotectRtcp, rtcpStream_eq, if_pos hshort]
    rw [hreply]
    exact .invalid hshort
  have hroom := Nat.le_of_not_lt hshort
  obtain ⟨ssrc, hstream, -⟩ := Rtcp.ssrc?_eq (show Rtcp.headerLength ≤ packet.length by rw [leastRtcp] at hroom; omega)
  obtain ⟨header, payload, tag, word, hpacket, hh, ht⟩ := r.crypto.rtcp.exists_rtcpTrailer hroom
  have hreceived : r.rtcpReceivedTag packet = tag := by
    rw [hpacket]
    exact rtcpReceivedTag_append hc ht
  have hs : Rtcp.ssrc? header = some ssrc := by
    rw [← hstream, hpacket, Rtcp.ssrc?_append (Nat.le_of_eq hh.symm)]
  have htrailer : r.rtcpTrailer packet = ⟨header.length + payload.length, word⟩ := by
    rw [Receiver.rtcpTrailer, hpacket, ← ht]
    exact r.crypto.rtcp.controlTrailer_eq header payload tag word
  have hexpected : r.rtcpExpectedTag packet ssrc = r.crypto.rtcp.rtcpTag ssrc (r.rtcpTrailer packet).index header payload
      (beBytes 4 word.toNat) := by
    have hslice : slice packet Rtcp.headerLength (header.length + payload.length) = payload := by
      rw [hpacket]
      exact slice_mid hh.symm rfl
    simp only [rtcpExpectedTag, htrailer, hslice]
    rw [hpacket, ← hh, List.take_left]
  have hend : header.length + payload.length = packet.length - r.crypto.suite.rtcpTagLength - controlIndexLength :=
    (congrArg ControlTrailer.textEnd htrailer).symm
  have hopens : r.crypto.rtcp.Opens (Rtcp.headerLength + controlIndexLength) payload.length :=
    r.crypto.rtcp.opens_of_lt (by decide) (by omega)
  have hreply := @unprotectRtcp_append ssrc header payload tag r hc settings hh hs ht word
  dsimp only at hreply
  rw [← hpacket, ← htrailer, ← hexpected, ← hreceived, hend] at hreply
  simp only [hopens, true_and] at hreply
  rw [hreply]
  by_cases ha : r.acceptsRtcp ssrc (r.rtcpTrailer packet).index = true
  · have hnew : ¬r.ReplaysRtcp ssrc (r.rtcpTrailer packet).index := by
      rw [replaysRtcp_iff, ha]
      exact Bool.noConfusion
    rw [if_pos ha]
    split
    · rename_i hplain
      exact .unencrypted hroom hstream hnew hplain
    · rename_i hplain
      split
      · rename_i htag
        exact .taken hroom hstream hnew hplain htag
      · rename_i htag
        exact .unauthentic hroom hstream hnew hplain htag
  · rw [if_neg ha]
    exact .replayed hroom hstream ((r.replaysRtcp_iff _ _).mpr (by simpa using ha))

end Receiver

namespace Session

structure AnswersRtp (s : Session) (r : Receiver) (packet : Bytes) : Prop where
  invalid : (∃ fault, (s.unprotectRtp packet).outcome = .error (.invalidPacket fault)) ↔
    packet.length < r.leastRtp ∨ Rtp.headerLength? (r.rtpBody packet) = none
  replayed : ∀ index, (s.unprotectRtp packet).outcome = .error (.replayDetected index) ↔
    ∃ h, Rtp.Header.read? (r.rtpBody packet) = some h ∧ (r.position h.ssrc h.seq).index = index ∧
      r.ReplaysRtp h.ssrc index
  unauthentic : (s.unprotectRtp packet).outcome = .error .authenticationFailed ↔
    ∃ h, Rtp.Header.read? (r.rtpBody packet) = some h ∧ ¬r.ReplaysRtp h.ssrc (r.position h.ssrc h.seq).index ∧
      r.rtpReceivedTag packet ≠ r.rtpExpectedTag packet h
  taken : ∀ n, (s.unprotectRtp packet).outcome = .ok n ↔ packet.length - r.crypto.suite.rtpTagLength = n ∧
    ∃ h, Rtp.Header.read? (r.rtpBody packet) = some h ∧ ¬r.ReplaysRtp h.ssrc (r.position h.ssrc h.seq).index ∧
      r.rtpReceivedTag packet = r.rtpExpectedTag packet h
  complete : ∀ e, (s.unprotectRtp packet).outcome = .error e →
    (∃ fault, e = .invalidPacket fault) ∨ (∃ index, e = .replayDetected index) ∨ e = .authenticationFailed
  untouched : ∀ e, (s.unprotectRtp packet).outcome = .error e →
    (s.unprotectRtp packet).bytes = packet ∧ (s.unprotectRtp packet).state = s
  faultless : r.checkedUnprotectRtp s.settings packet = some (r.unprotectRtp s.settings packet)

structure AnswersRtcp (s : Session) (r : Receiver) (packet : Bytes) : Prop where
  invalid : (∃ fault, (s.unprotectRtcp packet).outcome = .error (.invalidPacket fault)) ↔ packet.length < r.leastRtcp
  replayed : ∀ index, (s.unprotectRtcp packet).outcome = .error (.replayDetected index) ↔
    r.leastRtcp ≤ packet.length ∧ (r.rtcpTrailer packet).index.toUInt64 = index ∧
      ∃ ssrc, Rtcp.ssrc? packet = some ssrc ∧ r.ReplaysRtcp ssrc (r.rtcpTrailer packet).index
  unencrypted : (s.unprotectRtcp packet).outcome = .error (.crypto .unencryptedControl) ↔
    r.leastRtcp ≤ packet.length ∧ r.RefusesPlain packet ∧
      ∃ ssrc, Rtcp.ssrc? packet = some ssrc ∧ ¬r.ReplaysRtcp ssrc (r.rtcpTrailer packet).index
  unauthentic : (s.unprotectRtcp packet).outcome = .error .authenticationFailed ↔
    r.leastRtcp ≤ packet.length ∧ ¬r.RefusesPlain packet ∧
      ∃ ssrc, Rtcp.ssrc? packet = some ssrc ∧ ¬r.ReplaysRtcp ssrc (r.rtcpTrailer packet).index ∧
        r.rtcpReceivedTag packet ≠ r.rtcpExpectedTag packet ssrc
  taken : ∀ n, (s.unprotectRtcp packet).outcome = .ok n ↔
    packet.length - r.crypto.suite.rtcpTagLength - controlIndexLength = n ∧
      r.leastRtcp ≤ packet.length ∧ ¬r.RefusesPlain packet ∧
        ∃ ssrc, Rtcp.ssrc? packet = some ssrc ∧ ¬r.ReplaysRtcp ssrc (r.rtcpTrailer packet).index ∧
          r.rtcpReceivedTag packet = r.rtcpExpectedTag packet ssrc
  complete : ∀ e, (s.unprotectRtcp packet).outcome = .error e →
    (∃ fault, e = .invalidPacket fault) ∨ (∃ index, e = .replayDetected index) ∨
      e = .crypto .unencryptedControl ∨ e = .authenticationFailed
  untouched : ∀ e, (s.unprotectRtcp packet).outcome = .error e →
    (s.unprotectRtcp packet).bytes = packet ∧ (s.unprotectRtcp packet).state = s
  faultless : r.checkedUnprotectRtcp s.settings packet = some (r.unprotectRtcp s.settings packet)

variable {s : Session} {r : Receiver}

theorem withReceiver_of_receiving (hr : s.role = .receiving r) : s.withReceiver r = s := by
  rw [withReceiver, ← hr]

theorem answersRtp_of_receiving (hr : s.role = .receiving r) (hc : r.crypto.Fits) {packet : Bytes}
    (hl : packet.length < Galois.maxLength) : s.AnswersRtp r packet := by
  have hfaultless := Receiver.checkedUnprotectRtp_eq hc s.settings packet
  have hanswer := Receiver.rtpAnswer_unprotectRtp hc s.settings hl
  have hreply := unprotectRtp_of_receiving hr packet
  have hsame := withReceiver_of_receiving hr
  have hinvalid := r.invalidRtp_iff packet
  generalize r.unprotectRtp s.settings packet = reply at hanswer hreply
  cases hanswer with
  | invalid hheader =>
    constructor
    case faultless => exact hfaultless
    all_goals simp [hreply, PacketReply.mapState, hinvalid, hheader, hsame]
  | replayed hheader hreplays =>
    constructor
    case faultless => exact hfaultless
    all_goals simp [hreply, PacketReply.mapState, hinvalid, hheader, hsame, hreplays]
  | unauthentic hheader hnew htag =>
    constructor
    case faultless => exact hfaultless
    all_goals simp [hreply, PacketReply.mapState, hinvalid, hheader, hsame, hnew, htag]
  | taken hheader hnew htag =>
    constructor
    case faultless => exact hfaultless
    all_goals simp [hreply, PacketReply.mapState, hinvalid, hheader, hnew, htag]

theorem answersRtcp_of_receiving (hr : s.role = .receiving r) (hc : r.crypto.Fits) {packet : Bytes}
    (hl : packet.length < Galois.maxLength) : s.AnswersRtcp r packet := by
  have hfaultless := Receiver.checkedUnprotectRtcp_eq hc s.settings packet
  have hanswer := Receiver.rtcpAnswer_unprotectRtcp hc s.settings hl
  have hreply := unprotectRtcp_of_receiving hr packet
  have hsame := withReceiver_of_receiving hr
  generalize r.unprotectRtcp s.settings packet = reply at hanswer hreply
  cases hanswer with
  | invalid hshort =>
    constructor
    case faultless => exact hfaultless
    all_goals simp [hreply, PacketReply.mapState, hsame, hshort, Nat.not_le.mpr hshort]
  | replayed hroom hstream hreplays =>
    constructor
    case faultless => exact hfaultless
    all_goals simp [hreply, PacketReply.mapState, hsame, hroom, Nat.not_lt.mpr hroom, hstream, hreplays]
  | unencrypted hroom hstream hnew hplain =>
    constructor
    case faultless => exact hfaultless
    all_goals simp [hreply, PacketReply.mapState, hsame, hroom, Nat.not_lt.mpr hroom, hstream, hnew, hplain]
  | unauthentic hroom hstream hnew hencrypted htag =>
    constructor
    case faultless => exact hfaultless
    all_goals simp [hreply, PacketReply.mapState, hsame, hroom, Nat.not_lt.mpr hroom, hstream, hnew, hencrypted, htag]
  | taken hroom hstream hnew hencrypted htag =>
    constructor
    case faultless => exact hfaultless
    all_goals simp [hreply, PacketReply.mapState, hroom, Nat.not_lt.mpr hroom, hstream, hnew, hencrypted, htag]

/-- A receiving session, however it came about, answers to any bytes in one of the documented ways, without a fault,
and a packet that it refuses is left as it is, like the session itself. -/
theorem answers_of_reachable (hs : s.Reachable) (hr : s.role = .receiving r) {packet : Bytes}
    (hl : packet.length < Galois.maxLength) : s.AnswersRtp r packet ∧ s.AnswersRtcp r packet := by
  obtain ⟨suite, material, hk⟩ := hs.keyed (by rw [hr]; rfl : s.role.direction? = some .recv)
  obtain ⟨r', hr', hm⟩ := hk.receiver
  cases hr.symm.trans hr'
  have hc := (SessionCrypto.fits_of_ofMaterial hm).2
  exact ⟨answersRtp_of_receiving hr hc hl, answersRtcp_of_receiving hr hc hl⟩

theorem answers_to_zeros :
    ∃ r, (start 64 [] .recv .aesCm128HmacSha1_80 (zeros 30)).role = .receiving r ∧
      (start 64 [] .recv .aesCm128HmacSha1_80 (zeros 30)).AnswersRtp r (zeros 22) ∧
      (start 64 [] .recv .aesCm128HmacSha1_80 (zeros 30)).AnswersRtcp r (zeros 22) ∧
      let s := start 64 [] .recv .aesCm128HmacSha1_80 (zeros 30)
      (∃ fault, (s.unprotectRtp (zeros 22)).outcome = .error (.invalidPacket fault)) ∧
        (s.unprotectRtp (zeros 22)).bytes = zeros 22 ∧
        ¬∃ fault, (s.unprotectRtcp (zeros 22)).outcome = .error (.invalidPacket fault) := by
  obtain ⟨c, hm, hsuite, -⟩ := SessionCrypto.fits_ofMaterial
    (show (zeros 30).length = Suite.aesCm128HmacSha1_80.materialLength from rfl)
  have hr := role_start_recv 64 [] hm
  have hreachable : (start 64 [] .recv .aesCm128HmacSha1_80 (zeros 30)).Reachable :=
    ⟨64, [.configure .recv .aesCm128HmacSha1_80 (zeros 30), .setEncryptedIds []], rfl⟩
  have hlength : (zeros 22).length < Galois.maxLength := by decide
  obtain ⟨hrtp, hrtcp⟩ := answers_of_reachable hreachable hr hlength
  have hheader : Rtp.headerLength? (Receiver.rtpBody { crypto := c } (zeros 22)) = none := by
    rw [Receiver.rtpBody, hsuite]
    rfl
  obtain ⟨fault, hfault⟩ := hrtp.invalid.mpr (.inr hheader)
  have hlong : ¬(zeros 22).length < Receiver.leastRtcp { crypto := c } := by
    rw [Receiver.leastRtcp, hsuite]
    decide
  exact ⟨_, hr, hrtp, hrtcp, ⟨fault, hfault⟩, (hrtp.untouched _ hfault).1, mt hrtcp.invalid.mp hlong⟩

end Session

end SecureRtp
