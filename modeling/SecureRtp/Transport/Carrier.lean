import SecureRtp.Notice
import SecureRtp.Packet.Buffer
import SecureRtp.Packet.SendTime

namespace SecureRtp

structure PacketOptions where
  packetId : Option Int := none
  timeParams : TimeParams := {}
  deriving DecidableEq, Repr

structure Sent (τ : Type) where
  outcome : Except Error Unit
  packet : PacketBuffer
  carrier : τ
  notices : List Notice := []

def Sent.map {τ υ : Type} (f : τ → υ) (s : Sent τ) : Sent υ :=
  ⟨s.outcome, s.packet, f s.carrier, s.notices⟩

class Carrier (τ : Type) where
  send : τ → PacketKind → PacketBuffer → PacketOptions → UInt32 → Sent τ
  rtcpMux : τ → Bool
  setRtcpMux : τ → Bool → τ

instance {τ υ : Type} [Carrier τ] [Carrier υ] : Carrier (τ ⊕ υ) where
  send
    | .inl c, kind, packet, options, flags => (Carrier.send c kind packet options flags).map .inl
    | .inr c, kind, packet, options, flags => (Carrier.send c kind packet options flags).map .inr
  rtcpMux
    | .inl c => Carrier.rtcpMux c
    | .inr c => Carrier.rtcpMux c
  setRtcpMux
    | .inl c, on => .inl (Carrier.setRtcpMux c on)
    | .inr c, on => .inr (Carrier.setRtcpMux c on)

end SecureRtp
