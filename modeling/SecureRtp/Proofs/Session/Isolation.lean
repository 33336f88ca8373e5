import SecureRtp.Proofs.Session.Control
import SecureRtp.Proofs.Session.Media
import SecureRtp.Proofs.Session.Run

namespace SecureRtp

def PacketKind.ssrc? : PacketKind → Bytes → Option UInt32
  | .rtp => Rtp.ssrc?
  | .rtcp => Rtcp.ssrc?

structure PacketReply.Alike {σ α : Type} (R : σ → σ → Prop) (a b : PacketReply σ α) : Prop where
  outcome : a.outcome = b.outcome
  bytes : a.bytes = b.bytes
  state : R a.state b.state

theorem PacketReply.state_of_failed {σ α : Type} {state : σ} {reply : PacketReply σ α}
    (hcases : (∃ a, reply.outcome = .ok a) ∨ ∃ e, reply.outcome = .error e ∧ reply.state = state)
    (hf : reply.outcome.isOk = false) : reply.state = state := by
  obtain ⟨a, hok⟩ | ⟨e, -, hstate⟩ := hcases
  · rw [hok] at hf
    cases hf
  · exact hstate

variable {kind : PacketKind} {ssrc : UInt32}

namespace Sender

structure AgreeOn (kind : PacketKind) (ssrc : UInt32) (s t : Sender) : Prop where
  crypto : s.crypto = t.crypto
  media : kind = .rtp → s.positions[ssrc]? = t.positions[ssrc]?
  control : kind = .rtcp → s.controlIndices[ssrc]? = t.controlIndices[ssrc]?

variable {s t u : Sender} {buffer : Bytes} {length : Nat}

theorem AgreeOn.refl (s : Sender) : s.AgreeOn kind ssrc s := ⟨rfl, fun _ => rfl, fun _ => rfl⟩

theorem AgreeOn.trans (h : s.AgreeOn kind ssrc t) (h' : t.AgreeOn kind ssrc u) : s.AgreeOn kind ssrc u where
  crypto := h.crypto.trans h'.crypto
  media hk := (h.media hk).trans (h'.media hk)
  control hk := (h.control hk).trans (h'.control hk)

theorem ssrc_of_rtpHeader {header : Rtp.Header} (hh : s.rtpHeader buffer length = .ok header) :
    Rtp.ssrc? buffer = some header.ssrc := by
  obtain ⟨text, spare, rfl, -, -, hread⟩ := exists_of_rtpHeader hh
  exact Rtp.Header.ssrc?_of_read? (Rtp.Header.read?_append hread spare)

theorem ssrc_of_rtcpStream {stream : UInt32} (hs : s.rtcpStream buffer length = .ok stream) :
    Rtcp.ssrc? buffer = some stream := by
  obtain ⟨header, payload, spare, rfl, hl, -, -, hread⟩ := exists_of_rtcpStream hs
  rw [Rtcp.ssrc?_append (Nat.le_of_eq hl.symm), hread]

theorem AgreeOn.recordRtp (h : s.AgreeOn .rtp ssrc t) (p : Position) :
    (s.recordRtp ssrc p).AgreeOn .rtp ssrc (t.recordRtp ssrc p) where
  crypto := by rw [crypto_recordRtp, crypto_recordRtp, h.crypto]
  media _ := by rw [positions_recordRtp_self, positions_recordRtp_self, h.media rfl]
  control := nofun

theorem AgreeOn.recordRtcp (h : s.AgreeOn .rtcp ssrc t) (index : UInt32) :
    (s.recordRtcp ssrc index).AgreeOn .rtcp ssrc (t.recordRtcp ssrc index) where
  crypto := h.crypto
  media := nofun
  control _ := by
    rw [Sender.recordRtcp, Sender.recordRtcp, Std.TreeMap.getElem?_insert_self, Std.TreeMap.getElem?_insert_self]

theorem AgreeOn.protectRtp (h : s.AgreeOn .rtp ssrc t) (hb : Rtp.ssrc? buffer = some ssrc) (settings : Settings)
    (length : Nat) :
    (s.protectRtp settings buffer length).Alike (AgreeOn .rtp ssrc) (t.protectRtp settings buffer length) := by
  have hheader : s.rtpHeader buffer length = t.rtpHeader buffer length := by
    rw [rtpHeader, rtpHeader, h.crypto]
  unfold Sender.protectRtp
  rw [← hheader]
  cases hh : s.rtpHeader buffer length with
  | error e => exact ⟨rfl, rfl, h⟩
  | ok header =>
    obtain rfl : header.ssrc = ssrc := Option.some.inj ((ssrc_of_rtpHeader hh).symm.trans hb)
    have hnext : s.nextPosition header.ssrc header.seq = t.nextPosition header.ssrc header.seq := by
      rw [nextPosition, nextPosition, h.media rfl]
    dsimp only
    rw [hnext, sealRtp, sealRtp, h.crypto]
    split
    · exact ⟨rfl, rfl, h⟩
    · exact ⟨rfl, rfl, h.recordRtp _⟩

theorem AgreeOn.protectRtcp (h : s.AgreeOn .rtcp ssrc t) (hb : Rtcp.ssrc? buffer = some ssrc) (length : Nat) :
    (s.protectRtcp buffer length).Alike (AgreeOn .rtcp ssrc) (t.protectRtcp buffer length) := by
  have hstream : s.rtcpStream buffer length = t.rtcpStream buffer length := by
    rw [rtcpStream, rtcpStream, h.crypto]
  unfold Sender.protectRtcp
  rw [← hstream]
  cases hs : s.rtcpStream buffer length with
  | error e => exact ⟨rfl, rfl, h⟩
  | ok stream =>
    obtain rfl : stream = ssrc := Option.some.inj ((ssrc_of_rtcpStream hs).symm.trans hb)
    have hindex : s.controlIndex stream = t.controlIndex stream := by
      rw [controlIndex, controlIndex, Std.TreeMap.getD_eq_getD_getElem?, h.control rfl,
        ← Std.TreeMap.getD_eq_getD_getElem?]
    dsimp only
    rw [hindex, h.crypto]
    split
    · exact ⟨rfl, rfl, h⟩
    · exact ⟨rfl, rfl, h.recordRtcp _⟩

theorem agreeOn_protectRtp (hb : ¬(kind = .rtp ∧ Rtp.ssrc? buffer = some ssrc)) (settings : Settings) :
    (s.protectRtp settings buffer length).state.AgreeOn kind ssrc s := by
  unfold Sender.protectRtp
  cases hh : s.rtpHeader buffer length with
  | error e => exact .refl s
  | ok header =>
    dsimp only
    split
    · exact .refl s
    · refine ⟨crypto_recordRtp _ _ _, ?_, fun _ => by rw [controlIndices_recordRtp]⟩
      rintro rfl
      apply positions_recordRtp_of_ne
      rintro rfl
      exact hb ⟨rfl, ssrc_of_rtpHeader hh⟩

theorem agreeOn_protectRtcp (hb : ¬(kind = .rtcp ∧ Rtcp.ssrc? buffer = some ssrc)) :
    (s.protectRtcp buffer length).state.AgreeOn kind ssrc s := by
  unfold Sender.protectRtcp
  cases hs : s.rtcpStream buffer length with
  | error e => exact .refl s
  | ok stream =>
    dsimp only
    split
    · exact .refl s
    · refine ⟨rfl, fun _ => rfl, ?_⟩
      rintro rfl
      have hne : stream ≠ ssrc := by
        rintro rfl
        exact hb ⟨rfl, ssrc_of_rtcpStream hs⟩
      rw [Sender.recordRtcp, Std.TreeMap.getElem?_insert, if_neg (by simpa using hne)]

end Sender

namespace Receiver

structure AgreeOn (kind : PacketKind) (ssrc : UInt32) (r t : Receiver) : Prop where
  crypto : r.crypto = t.crypto
  media : kind = .rtp → r.streams[ssrc]? = t.streams[ssrc]?
  control : kind = .rtcp → r.controlWindows[ssrc]? = t.controlWindows[ssrc]?

variable {r t u : Receiver} {packet : Bytes}

theorem AgreeOn.refl (r : Receiver) : r.AgreeOn kind ssrc r := ⟨rfl, fun _ => rfl, fun _ => rfl⟩

theorem AgreeOn.trans (h : r.AgreeOn kind ssrc t) (h' : t.AgreeOn kind ssrc u) : r.AgreeOn kind ssrc u where
  crypto := h.crypto.trans h'.crypto
  media hk := (h.media hk).trans (h'.media hk)
  control hk := (h.control hk).trans (h'.control hk)

theorem ssrc_of_rtpHeader {header : Rtp.Header} (hh : r.rtpHeader packet = .ok header) :
    Rtp.ssrc? packet = some header.ssrc := by
  obtain ⟨body, tag, rfl, -, hread⟩ := exists_of_rtpHeader hh
  exact Rtp.Header.ssrc?_of_read? (Rtp.Header.read?_append hread tag)

theorem ssrc_of_rtcpStream {stream : UInt32} (hs : r.rtcpStream packet = .ok stream) :
    Rtcp.ssrc? packet = some stream := by
  obtain ⟨header, payload, tag, word, rfl, hl, -, hread⟩ := exists_of_rtcpStream hs
  rw [Rtcp.ssrc?_append (Nat.le_of_eq hl.symm), hread]

theorem AgreeOn.recordRtp (h : r.AgreeOn .rtp ssrc t) (replayWindow : UInt64) (p : Position) :
    (r.recordRtp replayWindow ssrc p).AgreeOn .rtp ssrc (t.recordRtp replayWindow ssrc p) where
  crypto := h.crypto
  media _ := by
    rw [Receiver.recordRtp, Receiver.recordRtp, Std.TreeMap.getElem?_insert_self, Std.TreeMap.getElem?_insert_self,
      h.media rfl]
  control := nofun

theorem AgreeOn.recordRtcp (h : r.AgreeOn .rtcp ssrc t) (replayWindow : UInt64) (index : UInt32) :
    (r.recordRtcp replayWindow ssrc index).AgreeOn .rtcp ssrc (t.recordRtcp replayWindow ssrc index) where
  crypto := h.crypto
  media := nofun
  control _ := by
    rw [Receiver.recordRtcp, Receiver.recordRtcp, Std.TreeMap.getElem?_insert_self, Std.TreeMap.getElem?_insert_self,
      h.control rfl]

theorem AgreeOn.unprotectRtp (h : r.AgreeOn .rtp ssrc t) (hb : Rtp.ssrc? packet = some ssrc) (settings : Settings) :
    (r.unprotectRtp settings packet).Alike (AgreeOn .rtp ssrc) (t.unprotectRtp settings packet) := by
  have hheader : r.rtpHeader packet = t.rtpHeader packet := by
    rw [rtpHeader, rtpHeader, h.crypto]
  unfold Receiver.unprotectRtp
  rw [← hheader]
  cases hh : r.rtpHeader packet with
  | error e => exact ⟨rfl, rfl, h⟩
  | ok header =>
    obtain rfl : header.ssrc = ssrc := Option.some.inj ((ssrc_of_rtpHeader hh).symm.trans hb)
    have hposition : r.position header.ssrc header.seq = t.position header.ssrc header.seq := by
      rw [position, position, h.media rfl]
    have haccepts (index : UInt64) : r.acceptsRtp header.ssrc index = t.acceptsRtp header.ssrc index := by
      rw [acceptsRtp, acceptsRtp, h.media rfl]
    dsimp only
    rw [hposition, haccepts, openRtp, openRtp, h.crypto]
    by_cases ha : t.acceptsRtp header.ssrc (t.position header.ssrc header.seq).index = true
    · rw [if_pos ha, if_pos ha]
      split
      · exact ⟨rfl, rfl, h⟩
      · exact ⟨rfl, rfl, h.recordRtp _ _⟩
    · rw [if_neg ha, if_neg ha]
      exact ⟨rfl, rfl, h⟩

theorem AgreeOn.unprotectRtcp (h : r.AgreeOn .rtcp ssrc t) (hb : Rtcp.ssrc? packet = some ssrc)
    (settings : Settings) :
    (r.unprotectRtcp settings packet).Alike (AgreeOn .rtcp ssrc) (t.unprotectRtcp settings packet) := by
  have hstream : r.rtcpStream packet = t.rtcpStream packet := by
    rw [rtcpStream, rtcpStream, h.crypto]
  unfold Receiver.unprotectRtcp
  rw [← hstream]
  cases hs : r.rtcpStream packet with
  | error e => exact ⟨rfl, rfl, h⟩
  | ok stream =>
    obtain rfl : stream = ssrc := Option.some.inj ((ssrc_of_rtcpStream hs).symm.trans hb)
    have haccepts (index : UInt32) : r.acceptsRtcp stream index = t.acceptsRtcp stream index := by
      rw [acceptsRtcp, acceptsRtcp, h.control rfl]
    dsimp only
    rw [haccepts, h.crypto]
    by_cases ha : t.acceptsRtcp stream
        (t.crypto.rtcp.controlTrailer packet t.crypto.suite.rtcpTagLength).index = true
    · rw [if_pos ha, if_pos ha]
      split
      · exact ⟨rfl, rfl, h⟩
      · exact ⟨rfl, rfl, h.recordRtcp _ _⟩
    · rw [if_neg ha, if_neg ha]
      exact ⟨rfl, rfl, h⟩

theorem agreeOn_unprotectRtp (hb : ¬(kind = .rtp ∧ Rtp.ssrc? packet = some ssrc)) (settings : Settings) :
    (r.unprotectRtp settings packet).state.AgreeOn kind ssrc r := by
  unfold Receiver.unprotectRtp
  cases hh : r.rtpHeader packet with
  | error e => exact .refl r
  | ok header =>
    dsimp only
    split
    · split
      · exact .refl r
      · refine ⟨rfl, ?_, fun _ => rfl⟩
        rintro rfl
        have hne : header.ssrc ≠ ssrc := by
          rintro rfl
          exact hb ⟨rfl, ssrc_of_rtpHeader hh⟩
        rw [Receiver.recordRtp, Std.TreeMap.getElem?_insert, if_neg (by simpa using hne)]
    · exact .refl r

theorem agreeOn_unprotectRtcp (hb : ¬(kind = .rtcp ∧ Rtcp.ssrc? packet = some ssrc)) (settings : Settings) :
    (r.unprotectRtcp settings packet).state.AgreeOn kind ssrc r := by
  unfold Receiver.unprotectRtcp
  cases hs : r.rtcpStream packet with
  | error e => exact .refl r
  | ok stream =>
    dsimp only
    split
    · split
      · exact .refl r
      · refine ⟨rfl, fun _ => rfl, ?_⟩
        rintro rfl
        have hne : stream ≠ ssrc := by
          rintro rfl
          exact hb ⟨rfl, ssrc_of_rtcpStream hs⟩
        rw [Receiver.recordRtcp, Std.TreeMap.getElem?_insert, if_neg (by simpa using hne)]
    · exact .refl r

theorem state_unprotectRtp_of_failed (settings : Settings)
    (hf : (r.unprotectRtp settings packet).outcome.isOk = false) : (r.unprotectRtp settings packet).state = r := by
  apply PacketReply.state_of_failed _ hf
  apply (r.unprotectRtp_cases settings packet).imp_left
  rintro ⟨n, -, -, -, -, hok, -⟩
  exact ⟨n, hok⟩

theorem state_unprotectRtcp_of_failed (settings : Settings)
    (hf : (r.unprotectRtcp settings packet).outcome.isOk = false) :
    (r.unprotectRtcp settings packet).state = r := by
  apply PacketReply.state_of_failed _ hf
  apply (r.unprotectRtcp_cases settings packet).imp_left
  rintro ⟨n, -, -, -, -, hok, -⟩
  exact ⟨n, hok⟩

end Receiver

namespace Session

inductive AgreeOn (kind : PacketKind) (ssrc : UInt32) : Session → Session → Prop where
  | idle (settings : Settings) : AgreeOn kind ssrc ⟨settings, .idle⟩ ⟨settings, .idle⟩
  | sending (settings : Settings) {s t : Sender} (h : s.AgreeOn kind ssrc t) :
      AgreeOn kind ssrc ⟨settings, .sending s⟩ ⟨settings, .sending t⟩
  | receiving (settings : Settings) {r t : Receiver} (h : r.AgreeOn kind ssrc t) :
      AgreeOn kind ssrc ⟨settings, .receiving r⟩ ⟨settings, .receiving t⟩

inductive Answer where
  | done (outcome : Except Error Unit)
  | indexed (outcome : Except Error (Nat × UInt64)) (bytes : Bytes)
  | packet (outcome : Except Error Nat) (bytes : Bytes)

def Answer.succeeded : Answer → Bool
  | .done outcome => outcome.isOk
  | .indexed outcome _ => outcome.isOk
  | .packet outcome _ => outcome.isOk

def answer (s : Session) : Call → Answer
  | .configure direction suite material => .done (s.configure direction suite material).outcome
  | .setEncryptedIds _ => .done (.ok ())
  | .enableExternalAuth => .done (.ok ())
  | .protectRtp buffer length => .indexed (s.protectRtp buffer length).outcome (s.protectRtp buffer length).bytes
  | .protectRtcp buffer length => .packet (s.protectRtcp buffer length).outcome (s.protectRtcp buffer length).bytes
  | .unprotectRtp packet => .packet (s.unprotectRtp packet).outcome (s.unprotectRtp packet).bytes
  | .unprotectRtcp packet => .packet (s.unprotectRtcp packet).outcome (s.unprotectRtcp packet).bytes

def answers (s : Session) : List Call → List (Call × Answer)
  | [] => []
  | call :: past => (call, (s.after past).answer call) :: s.answers past

def Call.packet? : Call → Option (PacketKind × Bytes)
  | .configure .. | .setEncryptedIds _ | .enableExternalAuth => none
  | .protectRtp buffer _ | .unprotectRtp buffer => some (.rtp, buffer)
  | .protectRtcp buffer _ | .unprotectRtcp buffer => some (.rtcp, buffer)

def Call.concerns (kind : PacketKind) (ssrc : UInt32) (call : Call) : Bool :=
  match call.packet? with
  | some (k, bytes) => k == kind && k.ssrc? bytes == some ssrc
  | none => true

variable {s t u : Session} {call : Call}

theorem AgreeOn.refl : (s : Session) → s.AgreeOn kind ssrc s
  | ⟨settings, .idle⟩ => .idle settings
  | ⟨settings, .sending s⟩ => .sending settings (.refl s)
  | ⟨settings, .receiving r⟩ => .receiving settings (.refl r)

theorem AgreeOn.trans (h : s.AgreeOn kind ssrc t) (h' : t.AgreeOn kind ssrc u) : s.AgreeOn kind ssrc u := by
  cases h with
  | idle settings => exact h'
  | sending settings h =>
    cases h' with
    | sending _ h' => exact .sending settings (h.trans h')
  | receiving settings h =>
    cases h' with
    | receiving _ h' => exact .receiving settings (h.trans h')

theorem AgreeOn.protectRtp (h : s.AgreeOn .rtp ssrc t) {buffer : Bytes} (hb : Rtp.ssrc? buffer = some ssrc)
    (length : Nat) : (s.protectRtp buffer length).Alike (AgreeOn .rtp ssrc) (t.protectRtp buffer length) := by
  cases h with
  | idle settings => exact ⟨rfl, rfl, .idle settings⟩
  | sending settings h =>
    have ha := h.protectRtp hb settings length
    exact ⟨ha.outcome, ha.bytes, .sending settings ha.state⟩
  | receiving settings h => exact ⟨rfl, rfl, .receiving settings h⟩

theorem AgreeOn.protectRtcp (h : s.AgreeOn .rtcp ssrc t) {buffer : Bytes} (hb : Rtcp.ssrc? buffer = some ssrc)
    (length : Nat) : (s.protectRtcp buffer length).Alike (AgreeOn .rtcp ssrc) (t.protectRtcp buffer length) := by
  cases h with
  | idle settings => exact ⟨rfl, rfl, .idle settings⟩
  | sending settings h =>
    have ha := h.protectRtcp hb length
    exact ⟨ha.outcome, ha.bytes, .sending settings ha.state⟩
  | receiving settings h => exact ⟨rfl, rfl, .receiving settings h⟩

theorem AgreeOn.unprotectRtp (h : s.AgreeOn .rtp ssrc t) {packet : Bytes} (hb : Rtp.ssrc? packet = some ssrc) :
    (s.unprotectRtp packet).Alike (AgreeOn .rtp ssrc) (t.unprotectRtp packet) := by
  cases h with
  | idle settings => exact ⟨rfl, rfl, .idle settings⟩
  | sending settings h => exact ⟨rfl, rfl, .sending settings h⟩
  | receiving settings h =>
    have ha := h.unprotectRtp hb settings
    exact ⟨ha.outcome, ha.bytes, .receiving settings ha.state⟩

theorem AgreeOn.unprotectRtcp (h : s.AgreeOn .rtcp ssrc t) {packet : Bytes} (hb : Rtcp.ssrc? packet = some ssrc) :
    (s.unprotectRtcp packet).Alike (AgreeOn .rtcp ssrc) (t.unprotectRtcp packet) := by
  cases h with
  | idle settings => exact ⟨rfl, rfl, .idle settings⟩
  | sending settings h => exact ⟨rfl, rfl, .sending settings h⟩
  | receiving settings h =>
    have ha := h.unprotectRtcp hb settings
    exact ⟨ha.outcome, ha.bytes, .receiving settings ha.state⟩

theorem AgreeOn.configure (h : s.AgreeOn kind ssrc t) (direction : Direction) (suite : Suite) (material : Bytes) :
    (s.configure direction suite material).outcome = (t.configure direction suite material).outcome ∧
      (s.configure direction suite material).state.AgreeOn kind ssrc (t.configure direction suite material).state := by
  have conflict (configured : Direction) {c d : SessionCrypto} (hcrypto : c = d) :
      (Except.error (.conflict (.sessionConfigured configured c.suite)) : Except Error Unit) =
        .error (.conflict (.sessionConfigured configured d.suite)) := by
    rw [hcrypto]
  cases h with
  | idle settings => exact ⟨rfl, .refl _⟩
  | sending settings h => exact ⟨conflict .send h.crypto, .sending settings h⟩
  | receiving settings h => exact ⟨conflict .recv h.crypto, .receiving settings h⟩

theorem AgreeOn.withSettings (h : s.AgreeOn kind ssrc t) (change : Settings → Settings) :
    AgreeOn kind ssrc ⟨change s.settings, s.role⟩ ⟨change t.settings, t.role⟩ := by
  cases h with
  | idle settings => exact .idle _
  | sending settings h => exact .sending _ h
  | receiving settings h => exact .receiving _ h

theorem Call.eq_of_concerns {k : PacketKind} {bytes : Bytes} (hp : call.packet? = some (k, bytes))
    (hc : call.concerns kind ssrc = true) : k = kind ∧ k.ssrc? bytes = some ssrc := by
  rw [concerns, hp] at hc
  simpa using hc

theorem AgreeOn.perform (h : s.AgreeOn kind ssrc t) (hc : call.concerns kind ssrc = true) :
    s.answer call = t.answer call ∧ (s.perform call).AgreeOn kind ssrc (t.perform call) := by
  cases call with
  | configure direction suite material =>
    obtain ⟨houtcome, hstate⟩ := h.configure direction suite material
    exact ⟨congrArg Answer.done houtcome, hstate⟩
  | setEncryptedIds ids => exact ⟨rfl, h.withSettings fun settings => { settings with encryptedIds := ids }⟩
  | enableExternalAuth => exact ⟨rfl, h.withSettings fun settings => { settings with externalAuth := true }⟩
  | protectRtp buffer length =>
    obtain ⟨rfl, hb⟩ := Call.eq_of_concerns rfl hc
    have ha := h.protectRtp hb length
    exact ⟨by rw [answer, answer, ha.outcome, ha.bytes], ha.state⟩
  | protectRtcp buffer length =>
    obtain ⟨rfl, hb⟩ := Call.eq_of_concerns rfl hc
    have ha := h.protectRtcp hb length
    exact ⟨by rw [answer, answer, ha.outcome, ha.bytes], ha.state⟩
  | unprotectRtp packet =>
    obtain ⟨rfl, hb⟩ := Call.eq_of_concerns rfl hc
    have ha := h.unprotectRtp hb
    exact ⟨by rw [answer, answer, ha.outcome, ha.bytes], ha.state⟩
  | unprotectRtcp packet =>
    obtain ⟨rfl, hb⟩ := Call.eq_of_concerns rfl hc
    have ha := h.unprotectRtcp hb
    exact ⟨by rw [answer, answer, ha.outcome, ha.bytes], ha.state⟩

theorem Call.not_of_not_concerns {k : PacketKind} {bytes : Bytes} (hp : call.packet? = some (k, bytes))
    (hc : call.concerns kind ssrc = false) : ¬(kind = k ∧ k.ssrc? bytes = some ssrc) := by
  rintro ⟨rfl, hb⟩
  rw [concerns, hp] at hc
  simp [hb] at hc

theorem agreeOn_perform (s : Session) (hc : call.concerns kind ssrc = false) :
    (s.perform call).AgreeOn kind ssrc s := by
  obtain ⟨settings, role⟩ := s
  cases call with
  | configure direction suite material => cases hc
  | setEncryptedIds ids => cases hc
  | enableExternalAuth => cases hc
  | protectRtp buffer length =>
    have hb := Call.not_of_not_concerns rfl hc
    cases role with
    | idle => exact .refl _
    | sending sender => exact .sending settings (sender.agreeOn_protectRtp hb settings)
    | receiving receiver => exact .refl _
  | protectRtcp buffer length =>
    have hb := Call.not_of_not_concerns rfl hc
    cases role with
    | idle => exact .refl _
    | sending sender => exact .sending settings (sender.agreeOn_protectRtcp hb)
    | receiving receiver => exact .refl _
  | unprotectRtp packet =>
    have hb := Call.not_of_not_concerns rfl hc
    cases role with
    | idle => exact .refl _
    | sending sender => exact .refl _
    | receiving receiver => exact .receiving settings (receiver.agreeOn_unprotectRtp hb settings)
  | unprotectRtcp packet =>
    have hb := Call.not_of_not_concerns rfl hc
    cases role with
    | idle => exact .refl _
    | sending sender => exact .refl _
    | receiving receiver => exact .receiving settings (receiver.agreeOn_unprotectRtcp hb settings)

theorem perform_of_not_succeeded (s : Session) (hf : (s.answer call).succeeded = false) : s.perform call = s := by
  obtain ⟨settings, role⟩ := s
  cases call with
  | configure direction suite material =>
    cases role with
    | idle =>
      rw [answer, configure_of_idle rfl] at hf
      rw [perform, configure_of_idle rfl]
      cases hm : SessionCrypto.ofMaterial suite material with
      | error e => rfl
      | ok crypto =>
        rw [hm] at hf
        cases hf
    | sending sender => rfl
    | receiving receiver => rfl
  | setEncryptedIds ids => cases hf
  | enableExternalAuth => cases hf
  | protectRtp buffer length =>
    cases role with
    | idle => rfl
    | receiving receiver => rfl
    | sending sender =>
      have hstate := PacketReply.state_of_failed (sender.protectRtp_cases settings buffer length) hf
      exact congrArg (withSender ⟨settings, .sending sender⟩) hstate
  | protectRtcp buffer length =>
    cases role with
    | idle => rfl
    | receiving receiver => rfl
    | sending sender =>
      have hstate := PacketReply.state_of_failed (sender.protectRtcp_cases buffer length) hf
      exact congrArg (withSender ⟨settings, .sending sender⟩) hstate
  | unprotectRtp packet =>
    cases role with
    | idle => rfl
    | sending sender => rfl
    | receiving receiver =>
      have hstate := Receiver.state_unprotectRtp_of_failed settings hf
      exact congrArg (withReceiver ⟨settings, .receiving receiver⟩) hstate
  | unprotectRtcp packet =>
    cases role with
    | idle => rfl
    | sending sender => rfl
    | receiving receiver =>
      have hstate := Receiver.state_unprotectRtcp_of_failed settings hf
      exact congrArg (withReceiver ⟨settings, .receiving receiver⟩) hstate

def keptOf (s : Session) (kind : PacketKind) (ssrc : UInt32) (calls : List Call) : List (Call × Answer) :=
  (s.answers calls).filter fun entry => entry.2.succeeded && entry.1.concerns kind ssrc

theorem kept_of_run (s : Session) (kind : PacketKind) (ssrc : UInt32) (calls : List Call) :
    (s.after calls).AgreeOn kind ssrc (s.after ((s.keptOf kind ssrc calls).map Prod.fst)) ∧
      s.answers ((s.keptOf kind ssrc calls).map Prod.fst) = s.keptOf kind ssrc calls := by
  induction calls with
  | nil => exact ⟨.refl s, rfl⟩
  | cons call past ih =>
    obtain ⟨hagree, hanswers⟩ := ih
    rw [keptOf, answers, List.filter_cons, ← keptOf]
    cases hsucceeded : ((s.after past).answer call).succeeded with
    | false =>
      rw [Bool.false_and, if_neg Bool.false_ne_true, after, perform_of_not_succeeded _ hsucceeded]
      exact ⟨hagree, hanswers⟩
    | true =>
      cases hconcerns : call.concerns kind ssrc with
      | false =>
        rw [Bool.true_and, if_neg Bool.false_ne_true]
        exact ⟨(agreeOn_perform _ hconcerns).trans hagree, hanswers⟩
      | true =>
        obtain ⟨hanswer, hperform⟩ := hagree.perform hconcerns
        rw [Bool.true_and, if_pos rfl, List.map_cons, answers, hanswers, hanswer]
        exact ⟨hperform, rfl⟩

/-- Streams are isolated from each other. A run without the calls that failed or were for packets of other streams
gives every call that is left the answer it had. -/
theorem streams_are_isolated (s : Session) (kind : PacketKind) (ssrc : UInt32) (calls : List Call) :
    s.answers ((s.keptOf kind ssrc calls).map Prod.fst) = s.keptOf kind ssrc calls :=
  (s.kept_of_run kind ssrc calls).2

end Session

end SecureRtp
