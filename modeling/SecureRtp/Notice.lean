import SecureRtp.Error
import SecureRtp.Event

namespace SecureRtp

inductive Level where
  | error
  | warn
  | info
  | debug
  | trace
  deriving DecidableEq, Repr

/-- Whose description a setting came from. Our own governs what is received, the peer's what is sent. -/
inductive ContentSource where
  | own
  | peer
  deriving DecidableEq, Repr

def ContentSource.describe : ContentSource → String
  | .own => "Local"
  | .peer => "Remote"

inductive Notice where
  | sessionConfigured (direction : Direction) (suite : Suite)
  | rtpProtected (ssrc : UInt32) (seq : UInt16) (index : UInt64) (length : Nat)
  | rtcpProtected (ssrc index : UInt32) (length : Nat)
  | rtpReplayed (ssrc : UInt32) (index : UInt64)
  | rtcpReplayed (ssrc index : UInt32)
  | rtpUnprotected (ssrc : UInt32) (seq : UInt16) (index : UInt64)
  | rtcpUnprotected (ssrc index : UInt32)
  | unencryptedRefused (suite : Suite)
  | eventDiscarded (event : Event)
  | windowClamped (size : UInt64) (name : String) (limit : UInt64)
  | rtpActivated (name : String) (send recv : Suite)
  | rtcpActivated (name : String) (send recv : Suite)
  | rtpParamsRefused (name : String) (cause : Error)
  | rtcpParamsRefused (name : String) (cause : Error)
  | rtcpParamsBeforeRtp (name : String)
  | rtcpParamsAgain (name : String)
  | paramsReset (name : String)
  | encryptedIdsSet (name : String) (source : ContentSource) (ids : List UInt8)
  | authParamsInactive (name : String)
  | overheadInactive (name : String)
  | sendInactive (name : String) (kind : PacketKind)
  | receiveInactive (name : String) (kind : PacketKind)
  | readyToSend (name : String) (ready : Bool)
  | rtpProtectFailed (name : String) (size : Nat) (seq : Option UInt16) (ssrc : Option UInt32) (cause : Error)
  | rtcpProtectFailed (name : String) (size : Nat) (packetType : Option UInt8) (cause : Error)
  | rtpUnprotectFailed (name : String) (size : Nat) (seq : Option UInt16) (ssrc : Option UInt32) (failures : Nat)
      (cause : Error)
  | rtpUnprotectFailedAgain (name : String) (cause : Error)
  | rtcpUnprotectFailed (name : String) (size : Nat) (packetType : Option UInt8) (cause : Error)
  deriving DecidableEq, Repr

namespace Notice

def level : Notice → Level
  | rtpParamsRefused .. | rtcpParamsRefused .. | rtpProtectFailed .. | rtcpProtectFailed ..
  | rtpUnprotectFailed .. | rtcpUnprotectFailed .. => .error
  | unencryptedRefused .. | windowClamped .. | rtcpParamsBeforeRtp .. | rtcpParamsAgain ..
  | authParamsInactive .. | overheadInactive .. | sendInactive .. | receiveInactive .. => .warn
  | rtpActivated .. | rtcpActivated .. | paramsReset .. => .info
  | sessionConfigured .. | rtpReplayed .. | rtcpReplayed .. | encryptedIdsSet .. | readyToSend ..
  | rtpUnprotectFailedAgain .. => .debug
  | rtpProtected .. | rtcpProtected .. | rtpUnprotected .. | rtcpUnprotected .. | eventDiscarded .. => .trace

def stream (ssrc : UInt32) : String := "ssrc=" ++ Text.hexWord ssrc

def rtpFields (size : Nat) (seq : Option UInt16) (ssrc : Option UInt32) : String :=
  s!"size={size}, seqnum=" ++ Text.optional (fun n => Text.number n.toNat) seq ++ ", SSRC=" ++
    Text.optional (fun n => Text.number n.toNat) ssrc

def rtcpFields (size : Nat) (packetType : Option UInt8) : String :=
  s!"size={size}, type=" ++ Text.optional (fun n => Text.number n.toNat) packetType

def text : Notice → String
  | sessionConfigured direction suite =>
    s!"SRTP session configured for {direction.describe} with {suite.name}"
  | rtpProtected ssrc seq index length =>
    s!"Protected RTP packet {stream ssrc} seq={seq.toNat} index={index.toNat} len={length}"
  | rtcpProtected ssrc index length =>
    s!"Protected RTCP packet {stream ssrc} index={index.toNat} len={length}"
  | rtpReplayed ssrc index => s!"Replayed SRTP packet {stream ssrc} index={index.toNat}"
  | rtcpReplayed ssrc index => s!"Replayed SRTCP packet {stream ssrc} index={index.toNat}"
  | rtpUnprotected ssrc seq index =>
    s!"Unprotected SRTP packet {stream ssrc} seq={seq.toNat} index={index.toNat}"
  | rtcpUnprotected ssrc index => s!"Unprotected SRTCP packet {stream ssrc} index={index.toNat}"
  | unencryptedRefused suite => s!"Rejecting unencrypted SRTCP packet for AEAD suite {suite.name}"
  | eventDiscarded event => s!"Event receiver dropped, discarding {event.describe}"
  | windowClamped size name limit =>
    s!"Replay window of {size.toNat} packets for {name} exceeds {limit.toNat}, clamping"
  | rtpActivated name send recv => s!"SRTP activated for {name}: send {send.name} recv {recv.name}"
  | rtcpActivated name send recv => s!"SRTCP activated for {name}: send {send.name} recv {recv.name}"
  | rtpParamsRefused name cause => s!"Failed to set SRTP params for {name}: {cause.message}"
  | rtcpParamsRefused name cause => s!"Failed to set SRTCP params for {name}: {cause.message}"
  | rtcpParamsBeforeRtp name => s!"Tried to set SRTCP params for {name} before SRTP params"
  | rtcpParamsAgain name => s!"Tried to set SRTCP params for {name} when SRTCP is already active"
  | paramsReset name => s!"The params in SRTP reset for {name}"
  | encryptedIdsSet name source ids =>
    s!"Encrypted header extension ids for {name} ({source.describe}): " ++
      Text.sequence (ids.map fun id => Text.number id.toNat)
  | authParamsInactive name => s!"Failed to get RTP auth params for {name}: SRTP not active"
  | overheadInactive name => s!"Failed to get SRTP overhead for {name}: SRTP not active"
  | sendInactive name kind => s!"Failed to send {kind.name} packet for {name}: SRTP not active"
  | receiveInactive name kind => s!"Inactive SRTP transport {name} received a {kind.name} packet, dropping"
  | readyToSend name ready => s!"SRTP transport {name} ready to send: {Text.flag ready}"
  | rtpProtectFailed name size seq ssrc cause =>
    s!"Failed to protect {name} RTP packet: {rtpFields size seq ssrc}: {cause.message}"
  | rtcpProtectFailed name size packetType cause =>
    s!"Failed to protect {name} RTCP packet: {rtcpFields size packetType}: {cause.message}"
  | rtpUnprotectFailed name size seq ssrc failures cause =>
    s!"Failed to unprotect {name} RTP packet: {rtpFields size seq ssrc}, failures={failures}: {cause.message}"
  | rtpUnprotectFailedAgain name cause => s!"Failed to unprotect {name} RTP packet: {cause.message}"
  | rtcpUnprotectFailed name size packetType cause =>
    s!"Failed to unprotect {name} RTCP packet: {rtcpFields size packetType}: {cause.message}"

end Notice

end SecureRtp
