import SecureRtp.Transport.Basic

namespace SecureRtp.Transport

variable {τ : Type}

structure Received (τ : Type) extends Reply (Transport τ) Unit where
  calls : List (ListenerId × Event) := []

def emit (t : Transport τ) (event : Event) (notices : List Notice) : Received τ :=
  let d := t.listeners.emit event
  { outcome := .ok ()
    state := { t with listeners := d.listeners }
    notices := notices ++ d.notices
    calls := d.calls }

structure Unprotected where
  outcome : Except Error Unit
  session : Session
  packet : PacketBuffer
  notices : List Notice := []

def Unprotected.ofReply (packet : PacketBuffer) (reply : PacketReply Session Nat) : Unprotected :=
  let written := { packet with packet := reply.bytes }
  match reply.outcome with
  | .error e => ⟨.error e, reply.state, written, reply.notices⟩
  | .ok length =>
    match written.setLength length with
    | .error e => ⟨.error e, reply.state, written, reply.notices⟩
    | .ok packet => ⟨.ok (), reply.state, packet, reply.notices⟩

def unprotectWith (session : Session) (kind : PacketKind) (packet : PacketBuffer) : Unprotected :=
  match kind with
  | .rtp => .ofReply packet (session.unprotectRtp packet.packet)
  | .rtcp => .ofReply packet (session.unprotectRtcp packet.packet)

def reportInterval : Nat := 100

/-- Media failures come in bursts, so that most are reported with less weight. `failures` counts those of
both kinds. -/
def unprotectFailure (name : String) (kind : PacketKind) (packet : Bytes) (failures : Nat) (cause : Error) :
    Notice :=
  match kind with
  | .rtp =>
    if failures % reportInterval = 1 then
      .rtpUnprotectFailed name packet.length (Rtp.seq? packet) (Rtp.ssrc? packet) failures cause
    else .rtpUnprotectFailedAgain name cause
  | .rtcp => .rtcpUnprotectFailed name packet.length (Rtcp.packetType? packet) cause

def receive (t : Transport τ) (kind : PacketKind) (packet : PacketBuffer) (arrival : Option Instant) :
    Received τ :=
  match t.activation.sessions? kind with
  | none =>
    { outcome := .error .inactive
      state := { t with stats := t.stats.countInactive }
      notices := [.receiveInactive t.contentName kind] }
  | some pair =>
    let u := unprotectWith pair.recv kind packet
    let t := { t with activation := t.activation.modify (fun pair => { pair with recv := u.session }) kind }
    match u.outcome with
    | .error e =>
      let t := { t with stats := t.stats.countUnprotectFailure }
      { outcome := .error e
        state := t
        notices :=
          u.notices ++ [unprotectFailure t.contentName kind u.packet.packet t.stats.unprotectFailures e] }
    | .ok () =>
      let t := { t with stats := t.stats.countUnprotected kind u.packet.length }
      t.emit (.packetReceived kind u.packet.packet arrival) u.notices

def ready (t : Transport τ) (on : Bool) : Received τ :=
  t.emit (.readyToSend on) [.readyToSend t.contentName on]

end SecureRtp.Transport
