namespace SecureRtp

inductive Direction where
  | send
  | recv
  deriving DecidableEq, Repr

def Direction.describe : Direction → String
  | .send => "Send"
  | .recv => "Recv"

inductive PacketKind where
  | rtp
  | rtcp
  deriving DecidableEq, Repr

def PacketKind.name : PacketKind → String
  | .rtp => "RTP"
  | .rtcp => "RTCP"

def PacketKind.describe : PacketKind → String
  | .rtp => "Rtp"
  | .rtcp => "Rtcp"

end SecureRtp
