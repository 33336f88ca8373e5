import SecureRtp.Session.Basic

namespace SecureRtp

namespace Sender

def nextPosition (s : Sender) (ssrc : UInt32) (seq : UInt16) : Position :=
  match s.positions[ssrc]? with
  | some last => last.next seq
  | none => ⟨0, seq⟩

def recordRtp (s : Sender) (ssrc : UInt32) (p : Position) : Sender :=
  match s.positions[ssrc]? with
  -- A late packet does not move its stream back.
  | some last => if p.index > last.index then { s with positions := s.positions.insert ssrc p } else s
  | none => { s with positions := s.positions.insert ssrc p }

def controlIndex (s : Sender) (ssrc : UInt32) : UInt32 := s.controlIndices.getD ssrc 0

def recordRtcp (s : Sender) (ssrc index : UInt32) : Sender :=
  { s with controlIndices := s.controlIndices.insert ssrc ((index + 1) &&& controlIndexMask) }

def rtpHeader (s : Sender) (buffer : Bytes) (length : Nat) : Except Error Rtp.Header :=
  if length > buffer.length then .error (.invalidPacket (.longerThanBuffer length buffer.length))
  else
    match Rtp.Header.read? (buffer.take length) with
    | none => .error (.invalidPacket (.malformedHeader length))
    | some header =>
      let required := length + s.crypto.suite.rtpTagLength
      if required > buffer.length then .error (.bufferTooSmall required buffer.length) else .ok header

def sealRtp (s : Sender) (settings : Settings) (header : Rtp.Header) (p : Position) (length : Nat) : Edit Unit := do
  maskPacketHeader s.crypto.header settings.encryptedIds header.ssrc p.index header.length
  s.crypto.rtp.sealRtp settings.externalAuth header.ssrc p header.length length

def protectRtp (s : Sender) (settings : Settings) (buffer : Bytes) (length : Nat) :
    PacketReply Sender (Nat × UInt64) :=
  match s.rtpHeader buffer length with
  | .error e => ⟨⟨.error e, s, []⟩, buffer⟩
  | .ok header =>
    let p := s.nextPosition header.ssrc header.seq
    let required := length + s.crypto.suite.rtpTagLength
    match (s.sealRtp settings header p length).apply buffer with
    | (.error e, bytes) => ⟨⟨.error e, s, []⟩, bytes⟩
    | (.ok (), bytes) =>
      ⟨⟨.ok (required, p.index), s.recordRtp header.ssrc p,
        [.rtpProtected header.ssrc header.seq p.index required]⟩, bytes⟩

def rtcpStream (s : Sender) (buffer : Bytes) (length : Nat) : Except Error UInt32 :=
  let required := length + controlIndexLength + s.crypto.suite.rtcpTagLength
  if length > buffer.length then .error (.invalidPacket (.controlTooShort length))
  else
    match Rtcp.ssrc? (buffer.take length) with
    | none => .error (.invalidPacket (.controlTooShort length))
    | some ssrc => if required > buffer.length then .error (.bufferTooSmall required buffer.length) else .ok ssrc

def protectRtcp (s : Sender) (buffer : Bytes) (length : Nat) : PacketReply Sender Nat :=
  match s.rtcpStream buffer length with
  | .error e => ⟨⟨.error e, s, []⟩, buffer⟩
  | .ok ssrc =>
    let index := s.controlIndex ssrc
    let required := length + controlIndexLength + s.crypto.suite.rtcpTagLength
    match (s.crypto.rtcp.sealRtcp ssrc index length).apply buffer with
    | (.error e, bytes) => ⟨⟨.error e, s, []⟩, bytes⟩
    | (.ok (), bytes) =>
      ⟨⟨.ok required, s.recordRtcp ssrc index, [.rtcpProtected ssrc index required]⟩, bytes⟩

end Sender

namespace Session

def withSender (s : Session) (sender : Sender) : Session := { s with role := .sending sender }

def protectRtp (s : Session) (buffer : Bytes) (length : Nat) : PacketReply Session (Nat × UInt64) :=
  match s.role.sender with
  | .ok sender => (sender.protectRtp s.settings buffer length).mapState s.withSender
  | .error e => ⟨⟨.error e, s, []⟩, buffer⟩

def protectRtcp (s : Session) (buffer : Bytes) (length : Nat) : PacketReply Session Nat :=
  match s.role.sender with
  | .ok sender => (sender.protectRtcp buffer length).mapState s.withSender
  | .error e => ⟨⟨.error e, s, []⟩, buffer⟩

end Session

end SecureRtp
