import SecureRtp.Session.Basic

namespace SecureRtp

namespace Receiver

def position (r : Receiver) (ssrc : UInt32) (seq : UInt16) : Position :=
  match r.streams[ssrc]? with
  | some stream => stream.highest.estimate seq
  | none => ⟨0, seq⟩

def acceptsRtp (r : Receiver) (ssrc : UInt32) (index : UInt64) : Bool :=
  match r.streams[ssrc]? with
  | some stream => stream.window.accepts index
  | none => true

def acceptsRtcp (r : Receiver) (ssrc index : UInt32) : Bool :=
  match r.controlWindows[ssrc]? with
  | some window => window.accepts index.toUInt64
  | none => true

def ReceiveStream.record (stream : ReceiveStream) (p : Position) : ReceiveStream where
  highest := if p.index ≥ stream.highest.index then p else stream.highest
  window := stream.window.insert p.index

def recordRtp (r : Receiver) (replayWindow : UInt64) (ssrc : UInt32) (p : Position) : Receiver :=
  let stream := (r.streams[ssrc]?).getD ⟨p, .empty replayWindow⟩
  { r with streams := r.streams.insert ssrc (ReceiveStream.record stream p) }

def recordRtcp (r : Receiver) (replayWindow : UInt64) (ssrc index : UInt32) : Receiver :=
  let window := (r.controlWindows[ssrc]?).getD (.empty replayWindow)
  { r with controlWindows := r.controlWindows.insert ssrc (window.insert index.toUInt64) }

def rtpHeader (r : Receiver) (packet : Bytes) : Except Error Rtp.Header :=
  let tagLength := r.crypto.suite.rtpTagLength
  if packet.length < Rtp.fixedLength + tagLength then .error (.invalidPacket (.protectedTooShort packet.length))
  else
    match Rtp.Header.read? (packet.take (packet.length - tagLength)) with
    | none => .error (.invalidPacket .malformedProtectedHeader)
    | some header => .ok header

def openRtp (r : Receiver) (settings : Settings) (header : Rtp.Header) (p : Position) (length : Nat) :
    Edit Unit := do
  r.crypto.rtp.openRtp header.ssrc p header.length length
  maskPacketHeader r.crypto.header settings.encryptedIds header.ssrc p.index header.length

def unprotectRtp (r : Receiver) (settings : Settings) (packet : Bytes) : PacketReply Receiver Nat :=
  match r.rtpHeader packet with
  | .error e => ⟨⟨.error e, r, []⟩, packet⟩
  | .ok header =>
    let p := r.position header.ssrc header.seq
    let length := packet.length - r.crypto.suite.rtpTagLength
    if r.acceptsRtp header.ssrc p.index then
      match (r.openRtp settings header p length).apply packet with
      | (.error e, bytes) => ⟨⟨.error e, r, []⟩, bytes⟩
      | (.ok (), bytes) =>
        ⟨⟨.ok length, r.recordRtp settings.replayWindow header.ssrc p,
          [.rtpUnprotected header.ssrc header.seq p.index]⟩, bytes⟩
    else ⟨⟨.error (.replayDetected p.index), r, [.rtpReplayed header.ssrc p.index]⟩, packet⟩

def rtcpStream (r : Receiver) (packet : Bytes) : Except Error UInt32 :=
  if packet.length < Rtcp.headerLength + controlIndexLength + r.crypto.suite.rtcpTagLength then
    .error (.invalidPacket (.protectedControlTooShort packet.length))
  else
    match Rtcp.ssrc? packet with
    | none => .error (.invalidPacket (.protectedControlTooShort packet.length))
    | some ssrc => .ok ssrc

def refusalNotices (suite : Suite) : Error → List Notice
  | .crypto .unencryptedControl => [.unencryptedRefused suite]
  | _ => []

def unprotectRtcp (r : Receiver) (settings : Settings) (packet : Bytes) : PacketReply Receiver Nat :=
  match r.rtcpStream packet with
  | .error e => ⟨⟨.error e, r, []⟩, packet⟩
  | .ok ssrc =>
    let trailer := r.crypto.rtcp.controlTrailer packet r.crypto.suite.rtcpTagLength
    let index := trailer.index
    if r.acceptsRtcp ssrc index then
      match (r.crypto.rtcp.openRtcp ssrc trailer).apply packet with
      | (.error e, bytes) => ⟨⟨.error e, r, refusalNotices r.crypto.suite e⟩, bytes⟩
      | (.ok (), bytes) =>
        ⟨⟨.ok trailer.textEnd, r.recordRtcp settings.replayWindow ssrc index,
          [.rtcpUnprotected ssrc index]⟩, bytes⟩
    else ⟨⟨.error (.replayDetected index.toUInt64), r, [.rtcpReplayed ssrc index]⟩, packet⟩

end Receiver

namespace Session

def withReceiver (s : Session) (receiver : Receiver) : Session := { s with role := .receiving receiver }

def unprotectRtp (s : Session) (packet : Bytes) : PacketReply Session Nat :=
  match s.role.receiver with
  | .ok receiver => (receiver.unprotectRtp s.settings packet).mapState s.withReceiver
  | .error e => ⟨⟨.error e, s, []⟩, packet⟩

def unprotectRtcp (s : Session) (packet : Bytes) : PacketReply Session Nat :=
  match s.role.receiver with
  | .ok receiver => (receiver.unprotectRtcp s.settings packet).mapState s.withReceiver
  | .error e => ⟨⟨.error e, s, []⟩, packet⟩

end Session

end SecureRtp
