import SecureRtp.Direction
import SecureRtp.Text.Record

namespace SecureRtp

abbrev Instant := Nat

inductive Event where
  | packetReceived (kind : PacketKind) (packet : Bytes) (arrival : Option Instant)
  | readyToSend (ready : Bool)
  deriving DecidableEq, Repr

def Event.describe : Event → String
  | .packetReceived kind packet arrival =>
    Text.record "PacketReceived"
      [("kind", kind.describe), ("packet", Text.byteString packet),
        ("packet_time", Text.record "PacketTime" [("arrival", Text.optional Text.number arrival)])]
  | .readyToSend ready => "ReadyToSend(" ++ Text.flag ready ++ ")"

end SecureRtp
