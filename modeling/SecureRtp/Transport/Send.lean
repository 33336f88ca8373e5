import SecureRtp.Transport.Basic

namespace SecureRtp.Transport

variable {τ : Type}

structure Protected where
  outcome : Except Error PacketOptions
  session : Session
  packet : PacketBuffer
  notices : List Notice := []

def Protected.ofReply {α : Type} (packet : PacketBuffer) (reply : PacketReply Session α) (length : α → Nat)
    (options : α → PacketOptions) : Protected :=
  let written := packet.withStorage reply.bytes
  match reply.outcome with
  | .error e => ⟨.error e, reply.state, written, reply.notices⟩
  | .ok a =>
    match written.setLength (length a) with
    | .error e => ⟨.error e, reply.state, written, reply.notices⟩
    | .ok packet => ⟨.ok (options a), reply.state, packet, reply.notices⟩

def protectRtp (session : Session) (sendTimeId : Option UInt8) (packet : PacketBuffer) (options : PacketOptions) :
    Protected :=
  if session.externalAuthActive then
    match session.authParams with
    | .error e => ⟨.error e, session, packet, []⟩
    | .ok auth =>
      Protected.ofReply packet (session.protectRtp packet.storage packet.length) (·.1) fun (_, index) =>
        { options with timeParams := ⟨sendTimeId, auth.key, auth.tagLength, some index⟩ }
  else Protected.ofReply packet (session.protectRtp packet.storage packet.length) (·.1) fun _ => options

def protectWith (session : Session) (kind : PacketKind) (sendTimeId : Option UInt8) (packet : PacketBuffer)
    (options : PacketOptions) : Protected :=
  let overhead := session.overhead kind
  if packet.headroom < overhead then
    ⟨.error (.bufferTooSmall (packet.length + overhead) packet.capacity), session, packet, []⟩
  else
    match kind with
    | .rtp => protectRtp session sendTimeId packet options
    | .rtcp => Protected.ofReply packet (session.protectRtcp packet.storage packet.length) id fun _ => options

def protectFailure (name : String) (kind : PacketKind) (packet : Bytes) (cause : Error) : Notice :=
  match kind with
  | .rtp => .rtpProtectFailed name packet.length (Rtp.seq? packet) (Rtp.ssrc? packet) cause
  | .rtcp => .rtcpProtectFailed name packet.length (Rtcp.packetType? packet) cause

def send [Carrier τ] (t : Transport τ) (kind : PacketKind) (packet : PacketBuffer) (options : PacketOptions)
    (flags : UInt32) : Sent (Transport τ) :=
  match t.activation.sessions? kind with
  | none =>
    ⟨.error .inactive, packet, { t with stats := t.stats.countInactive }, [.sendInactive t.contentName kind]⟩
  | some pair =>
    let p := protectWith pair.send kind t.sendTimeId packet options
    let t := { t with activation := t.activation.modify (fun pair => { pair with send := p.session }) kind }
    match p.outcome with
    | .error e =>
      ⟨.error e, p.packet, { t with stats := t.stats.countProtectFailure },
        p.notices ++ [protectFailure t.contentName kind p.packet.packet e]⟩
    | .ok options =>
      let sent := Carrier.send t.carrier kind p.packet options flags
      let t := { t with carrier := sent.carrier }
      match sent.outcome with
      | .error e => ⟨.error e, sent.packet, t, p.notices ++ sent.notices⟩
      | .ok () =>
        ⟨.ok (), sent.packet, { t with stats := t.stats.countProtected kind sent.packet.length },
          p.notices ++ sent.notices⟩

instance [Carrier τ] : Carrier (Transport τ) where
  send := send
  rtcpMux t := Carrier.rtcpMux t.carrier
  setRtcpMux := setRtcpMux

end SecureRtp.Transport
