import SecureRtp.Proofs.Session.Control
import SecureRtp.Proofs.Session.Media
import SecureRtp.Proofs.Transport.Run
import SecureRtp.Transport.Recorder

namespace SecureRtp

def Suite.overhead (suite : Suite) : PacketKind → Nat
  | .rtp => suite.rtpTagLength
  | .rtcp => suite.rtcpTagLength + controlIndexLength

def PacketKind.WellFormed (kind : PacketKind) (packet : Bytes) : Prop :=
  match kind with
  | .rtp => (Rtp.headerLength? packet).isSome
  | .rtcp => Rtcp.headerLength ≤ packet.length

instance (kind : PacketKind) (packet : Bytes) : Decidable (kind.WellFormed packet) := by
  unfold PacketKind.WellFormed
  cases kind <;> infer_instance

theorem PacketKind.wellFormed_rtp_iff {packet : Bytes} :
    PacketKind.rtp.WellFormed packet ↔ ∃ h, Rtp.Header.read? packet = some h := by
  rw [WellFormed, Rtp.headerLength?, Option.isSome_map, Option.isSome_iff_exists]

theorem Rtcp.exists_ssrc? {packet : Bytes} (h : headerLength ≤ packet.length) : ∃ ssrc, ssrc? packet = some ssrc := by
  match packet, h with
  | _ :: _ :: _ :: _ :: _ :: _ :: _ :: _ :: _, _ => exact ⟨_, rfl⟩

namespace PacketBuffer

structure Grown (before after : PacketBuffer) (n : Nat) : Prop where
  length : after.length = before.length + n
  capacity : after.capacity = before.capacity
  spare : after.spare = before.spare.drop n

theorem grown_of_length {b : PacketBuffer} {body : Bytes} {n : Nat} (hb : body.length = b.length + n)
    (hn : n ≤ b.headroom) : b.Grown ⟨body, b.spare.drop n⟩ n := by
  refine ⟨hb, ?_, rfl⟩
  simp only [capacity, length, headroom, List.length_drop] at hb hn ⊢
  omega

theorem storage_withStorage (b : PacketBuffer) (storage : Bytes) : (b.withStorage storage).storage = storage :=
  List.take_append_drop _ _

theorem setLength_withStorage (b : PacketBuffer) (body rest : Bytes) :
    (b.withStorage (body ++ rest)).setLength body.length = .ok ⟨body, rest⟩ := by
  rw [setLength, if_neg, storage_withStorage, List.take_left, List.drop_left]
  rw [← length_storage, storage_withStorage, List.length_append]
  omega

end PacketBuffer

namespace Session

variable {s : Session} {direction : Direction} {suite : Suite} {material : Bytes}

theorem Keyed.suite? (hk : s.Keyed direction suite material) : s.suite? = some suite := by
  obtain ⟨crypto, hm, hc⟩ := hk.crypto
  rw [Session.suite?, hc]
  exact congrArg some (SessionCrypto.fits_of_ofMaterial hm).1

theorem withSender_of_sending {sender : Sender} (hs : s.role = .sending sender) : s.withSender sender = s := by
  rw [withSender, ← hs]

theorem overhead_of_suite? (hs : s.suite? = some suite) (kind : PacketKind) :
    s.overhead kind = suite.overhead kind := by
  unfold Session.overhead
  rw [hs]
  cases kind <;> rfl

theorem overhead_of_sending {sender : Sender} (hs : s.role = .sending sender) (kind : PacketKind) :
    s.overhead kind = sender.crypto.suite.overhead kind := by
  apply overhead_of_suite?
  rw [suite?, hs]
  rfl

theorem Keyed.overhead (hk : s.Keyed direction suite material) (kind : PacketKind) :
    s.overhead kind = suite.overhead kind := overhead_of_suite? hk.suite? kind

theorem exists_authParams {sender : Sender} (hs : s.role = .sending sender) (hc : sender.crypto.Fits)
    (ha : s.externalAuthActive = true) : ∃ auth, s.authParams = .ok auth := by
  simp only [externalAuthActive, hs, Bool.and_eq_true, Suite.supportsExternalAuth] at ha
  simp only [authParams, hs, Role.sender, ok_bind]
  have hrtp := hc.rtp
  cases hf : sender.crypto.rtp with
  | counterMode key salt auth => exact ⟨auth, rfl⟩
  | galois key salt =>
    rw [hf] at hrtp
    cases hrtp with
    | galois hg ht => simp [hg] at ha

def rtpOptions (s : Session) (sendTimeId : Option UInt8) (options : PacketOptions) (index : UInt64) :
    PacketOptions :=
  match s.externalAuthActive, s.authParams with
  | true, .ok auth => { options with timeParams := ⟨sendTimeId, auth.key, auth.tagLength, some index⟩ }
  | _, _ => options

end Session

namespace Transport

open Session

section

variable {α : Type} {packet : PacketBuffer} {length : α → Nat} {options : α → PacketOptions}

theorem ofReply_error (e : Error) (state : Session) :
    Protected.ofReply packet ⟨⟨.error e, state, []⟩, packet.storage⟩ length options =
      ⟨.error e, state, packet, []⟩ := by
  simp only [Protected.ofReply, PacketBuffer.withStorage_storage]

theorem ofReply_ok {a : α} {body : Bytes} (hl : length a = body.length) (rest : Bytes) (state : Session)
    (notices : List Notice) :
    Protected.ofReply packet ⟨⟨.ok a, state, notices⟩, body ++ rest⟩ length options =
      ⟨.ok (options a), state, ⟨body, rest⟩, notices⟩ := by
  simp only [Protected.ofReply, hl, PacketBuffer.setLength_withStorage]

end

section

variable {s : Session} {suite : Suite} {material : Bytes} {packet : PacketBuffer}

theorem protectRtp_eq_ofReply {sender : Sender} (hs : s.role = .sending sender) (hc : sender.crypto.Fits)
    (sendTimeId : Option UInt8) (packet : PacketBuffer) (options : PacketOptions) :
    protectRtp s sendTimeId packet options =
      Protected.ofReply packet (s.protectRtp packet.storage packet.length) (·.1)
        fun (_, index) => s.rtpOptions sendTimeId options index := by
  unfold protectRtp rtpOptions
  cases ha : s.externalAuthActive with
  | true =>
    obtain ⟨auth, hauth⟩ := exists_authParams hs hc ha
    rw [hauth]
    rfl
  | false => rfl

theorem protectRtp_eq {sender : Sender} (hs : s.role = .sending sender) (hc : sender.crypto.Fits) {h : Rtp.Header}
    (hsends : sender.SendsRtp packet.storage packet.length h packet.packet packet.spare)
    (sendTimeId : Option UInt8) (options : PacketOptions) :
    protectRtp s sendTimeId packet options =
      let p := sender.nextPosition h.ssrc h.seq
      let body := sender.crypto.rtpCrypt s.settings.encryptedIds h p packet.packet
      let n := sender.crypto.suite.rtpTagLength
      { outcome := .ok (s.rtpOptions sendTimeId options p.index)
        session := s.withSender (sender.recordRtp h.ssrc p)
        packet := ⟨body ++ sender.crypto.rtpTrailer s.settings.externalAuth h p body, packet.spare.drop n⟩
        notices := [.rtpProtected h.ssrc h.seq p.index (packet.length + n)] } := by
  rw [protectRtp_eq_ofReply hs hc, Session.protectRtp_of_sending hs, hsends.protectRtp hc]
  dsimp only [PacketReply.mapState]
  rw [← List.append_assoc, ofReply_ok]
  · rfl
  · rw [List.length_append, SessionCrypto.length_rtpCrypt _ hsends.header, SessionCrypto.rtpTrailer,
      hc.rtp.length_rtpTrailer]

theorem protectRtp_malformed {sender : Sender} (hs : s.role = .sending sender) (hc : sender.crypto.Fits)
    (hr : Rtp.Header.read? packet.packet = none) (sendTimeId : Option UInt8) (options : PacketOptions) :
    protectRtp s sendTimeId packet options =
      ⟨.error (.invalidPacket (.malformedHeader packet.length)), s, packet, []⟩ := by
  have hheader : sender.rtpHeader packet.storage packet.length =
      .error (.invalidPacket (.malformedHeader packet.length)) := by
    rw [Sender.rtpHeader, if_neg (by simp [PacketBuffer.capacity])]
    simp only [PacketBuffer.storage, PacketBuffer.length, List.take_left, hr]
  rw [protectRtp_eq_ofReply hs hc, Session.protectRtp_of_sending hs, Sender.protectRtp, hheader]
  simp only [PacketReply.mapState, ofReply_error, withSender_of_sending hs]

theorem exists_sendsRtcp_storage {sender : Sender} (hw : Rtcp.headerLength ≤ packet.length)
    (hn : sender.crypto.suite.rtcpTagLength + controlIndexLength ≤ packet.headroom)
    (hl : sender.crypto.rtcp.Seals (Rtcp.headerLength + controlIndexLength) (packet.length - Rtcp.headerLength)) :
    ∃ ssrc header payload, sender.SendsRtcp packet.storage packet.length ssrc header payload packet.spare := by
  have hsplit := List.take_append_drop Rtcp.headerLength packet.packet
  have hhead : (packet.packet.take Rtcp.headerLength).length = Rtcp.headerLength := by
    rw [List.length_take]
    exact Nat.min_eq_left hw
  obtain ⟨ssrc, hssrc⟩ := Rtcp.exists_ssrc? (Nat.le_of_eq hhead.symm)
  refine ⟨ssrc, _, packet.packet.drop Rtcp.headerLength, ?_, hhead, ?_, ?_, hssrc, ?_⟩
  · rw [← List.append_assoc, hsplit, PacketBuffer.storage]
  · rw [← List.length_append, hsplit, PacketBuffer.length]
  · rw [Nat.add_comm]
    exact hn
  · rw [List.length_drop]
    exact hl

theorem protectRtcp_grown {sender : Sender} (hs : s.role = .sending sender) (hc : sender.crypto.Fits)
    (hw : Rtcp.headerLength ≤ packet.length)
    (hn : sender.crypto.suite.rtcpTagLength + controlIndexLength ≤ packet.headroom)
    (hl : packet.length < Galois.maxLength) (options : PacketOptions) :
    let p := Protected.ofReply packet (s.protectRtcp packet.storage packet.length) id fun _ => options
    p.outcome = .ok options ∧ packet.Grown p.packet (sender.crypto.suite.rtcpTagLength + controlIndexLength) := by
  have hseals : sender.crypto.rtcp.Seals (Rtcp.headerLength + controlIndexLength) (packet.length - Rtcp.headerLength) :=
    StreamCrypto.seals_of_le _ (by decide) (by omega)
  obtain ⟨ssrc, header, payload, hsends⟩ := exists_sendsRtcp_storage hw hn hseals
  have hwire := hsends.length_rtcpWire hc (sender.controlIndex ssrc)
  rw [Session.protectRtcp_of_sending hs, hsends.protectRtcp hc]
  dsimp only [PacketReply.mapState]
  rw [ofReply_ok (by rw [hwire, Nat.add_right_comm, Nat.add_assoc]; rfl)]
  exact ⟨rfl, PacketBuffer.grown_of_length hwire hn⟩

def CanProtect (suite : Suite) (kind : PacketKind) (packet : PacketBuffer) : Prop :=
  suite.overhead kind ≤ packet.headroom ∧ kind.WellFormed packet.packet

instance (suite : Suite) (kind : PacketKind) (packet : PacketBuffer) : Decidable (CanProtect suite kind packet) :=
  inferInstanceAs (Decidable (_ ∧ _))

theorem grown_protectWith (hk : s.Keyed .send suite material) (hl : packet.length < Galois.maxLength)
    {kind : PacketKind} (hc : CanProtect suite kind packet) (sendTimeId : Option UInt8) (options : PacketOptions) :
    let p := protectWith s kind sendTimeId packet options
    (∃ sentOptions, p.outcome = .ok sentOptions) ∧ packet.Grown p.packet (suite.overhead kind) := by
  obtain ⟨sender, hs, hm⟩ := hk.sender
  obtain ⟨rfl, hf⟩ := SessionCrypto.fits_of_ofMaterial hm
  obtain ⟨hn, hw⟩ := hc
  unfold protectWith
  simp only [hk.overhead, if_neg (Nat.not_lt.mpr hn)]
  cases kind with
  | rtp =>
    obtain ⟨h, hr⟩ := PacketKind.wellFormed_rtp_iff.mp hw
    have hh := Rtp.Header.length_le hr
    have hsends : sender.SendsRtp packet.storage packet.length h packet.packet packet.spare := by
      rw [PacketBuffer.length] at hl
      exact ⟨rfl, rfl, hn, hr, StreamCrypto.seals_of_le _ (by omega) (by omega)⟩
    dsimp only
    rw [protectRtp_eq hs hf hsends]
    refine ⟨⟨_, rfl⟩, PacketBuffer.grown_of_length ?_ hn⟩
    rw [List.length_append, SessionCrypto.length_rtpCrypt _ hr, SessionCrypto.rtpTrailer,
      hf.rtp.length_rtpTrailer]
    rfl
  | rtcp =>
    obtain ⟨ho, hg⟩ := protectRtcp_grown hs hf hw hn hl options
    exact ⟨⟨options, ho⟩, hg⟩

end

section

variable {τ : Type}

def dropped (t : Transport τ) (kind : PacketKind) (packet : PacketBuffer) : Sent (Transport τ) :=
  { outcome := .error .inactive
    packet
    carrier := { t with stats := t.stats.countInactive }
    notices := [.sendInactive t.contentName kind] }

def refused (t : Transport τ) (kind : PacketKind) (packet : PacketBuffer) (e : Error) : Sent (Transport τ) :=
  { outcome := .error e
    packet
    carrier := { t with stats := t.stats.countProtectFailure }
    notices := [protectFailure t.contentName kind packet.packet e] }

def handedDown [Carrier τ] (t : Transport τ) (kind : PacketKind) (p : Protected) (options : PacketOptions)
    (flags : UInt32) : Sent (Transport τ) :=
  let sent := Carrier.send t.carrier kind p.packet options flags
  { outcome := sent.outcome
    packet := sent.packet
    carrier :=
      { t with
        activation := t.activation.modify (fun pair => { pair with send := p.session }) kind
        carrier := sent.carrier
        stats :=
          match sent.outcome with
          | .ok () => t.stats.countProtected kind sent.packet.length
          | .error _ => t.stats }
    notices := p.notices ++ sent.notices }

theorem send_of_ok [Carrier τ] {t : Transport τ} {kind : PacketKind} {pair : SessionPair}
    (hp : t.activation.sessions? kind = some pair) {packet : PacketBuffer} {options sentOptions : PacketOptions}
    (ho : (protectWith pair.send kind t.sendTimeId packet options).outcome = .ok sentOptions) (flags : UInt32) :
    t.send kind packet options flags =
      t.handedDown kind (protectWith pair.send kind t.sendTimeId packet options) sentOptions flags := by
  simp only [send, hp, ho, handedDown]
  cases hs : (Carrier.send t.carrier kind (protectWith pair.send kind t.sendTimeId packet options).packet
    sentOptions flags).outcome <;> rfl

theorem send_cases [Carrier τ] (t : Transport τ) (kind : PacketKind) (packet : PacketBuffer) (options : PacketOptions)
    (flags : UInt32) :
    (t.activation.sessions? kind = none ∧ t.send kind packet options flags = t.dropped kind packet) ∨
    ∃ pair, t.activation.sessions? kind = some pair ∧
      let p := protectWith pair.send kind t.sendTimeId packet options
      (∃ e, p.outcome = .error e ∧ t.send kind packet options flags =
        { outcome := .error e
          packet := p.packet
          carrier :=
            { t with
              activation := t.activation.modify (fun pair => { pair with send := p.session }) kind
              stats := t.stats.countProtectFailure }
          notices := p.notices ++ [protectFailure t.contentName kind p.packet.packet e] }) ∨
      ∃ sentOptions, p.outcome = .ok sentOptions ∧
        t.send kind packet options flags = t.handedDown kind p sentOptions flags := by
  cases hp : t.activation.sessions? kind with
  | none => exact .inl ⟨rfl, send_of_inactive hp packet options flags⟩
  | some pair =>
    refine .inr ⟨pair, rfl, ?_⟩
    cases ho : (protectWith pair.send kind t.sendTimeId packet options).outcome with
    | error e => exact .inl ⟨e, ho, by simp only [send, hp, ho]⟩
    | ok sentOptions => exact .inr ⟨sentOptions, ho, send_of_ok hp ho flags⟩

theorem stats_handedDown_of_error [Carrier τ] {t : Transport τ} {kind : PacketKind} {p : Protected}
    {options : PacketOptions} {flags : UInt32} {e : Error}
    (h : (t.handedDown kind p options flags).outcome = .error e) :
    (t.handedDown kind p options flags).carrier.stats = t.stats := by
  have hsent : (Carrier.send t.carrier kind p.packet options flags).outcome = .error e := h
  simp only [handedDown, hsent]

theorem stats_handedDown_of_ok [Carrier τ] {t : Transport τ} {kind : PacketKind} {p : Protected}
    {options : PacketOptions} {flags : UInt32} (h : (t.handedDown kind p options flags).outcome = .ok ()) :
    (t.handedDown kind p options flags).carrier.stats =
      t.stats.countProtected kind (t.handedDown kind p options flags).packet.length := by
  have hsent : (Carrier.send t.carrier kind p.packet options flags).outcome = .ok () := h
  simp only [handedDown, hsent]

theorem sessions?_of_isActive {t : Transport τ} (ha : t.isActive = true) (kind : PacketKind) :
    ∃ pair, t.activation.sessions? kind = some pair := by
  rw [← Option.isSome_iff_exists, Activation.isSome_sessions?]
  exact ha

end

end Transport

end SecureRtp
