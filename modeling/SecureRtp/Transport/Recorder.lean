import SecureRtp.Transport.Carrier

namespace SecureRtp

structure RecordedPacket where
  kind : PacketKind
  data : Bytes
  options : PacketOptions
  flags : UInt32
  deriving DecidableEq, Repr

structure Recorder where
  sent : List RecordedPacket := []
  mux : Bool := false
  failing : Bool := false
  deriving DecidableEq, Repr

namespace Recorder

def refusal : Error := .transport "socket closed"

def send (r : Recorder) (kind : PacketKind) (packet : PacketBuffer) (options : PacketOptions) (flags : UInt32) :
    Sent Recorder :=
  if r.failing then { outcome := .error refusal, packet, carrier := r }
  else
    let recorded : RecordedPacket := ⟨kind, packet.packet, options, flags⟩
    { outcome := .ok (), packet, carrier := { r with sent := r.sent ++ [recorded] } }

instance : Carrier Recorder where
  send := send
  rtcpMux := (·.mux)
  setRtcpMux r on := { r with mux := on }

end Recorder

end SecureRtp
