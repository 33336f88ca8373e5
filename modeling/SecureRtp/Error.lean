import SecureRtp.Direction
import SecureRtp.Suite

namespace SecureRtp

inductive CryptoFault where
  | wrongDirection (configured wanted : Direction)
  | unencryptedControl
  | noAuthKey (suite : Suite)
  | sealRefused
  | tagTooLong (length : Nat)
  | other (text : String)
  deriving DecidableEq, Repr

inductive Conflict where
  | sessionConfigured (direction : Direction) (suite : Suite)
  | controlParamsSet
  | other (text : String)
  deriving DecidableEq, Repr

inductive KeyFault where
  | cipherKeyLength (length : Nat)
  | aeadKeyLength (length : Nat)
  | materialLength (suite : Suite) (length : Nat)
  | saltTooLong (length : Nat)
  | other (text : String)
  deriving DecidableEq, Repr

inductive PacketFault where
  | longerThanBuffer (length available : Nat)
  | malformedHeader (length : Nat)
  | controlTooShort (length : Nat)
  | protectedTooShort (length : Nat)
  | malformedProtectedHeader
  | protectedControlTooShort (length : Nat)
  | noRoomForTag (tagLength length : Nat)
  | missingIndex
  | tagLongerThanDigest (tagLength : Nat)
  | other (text : String)
  deriving DecidableEq, Repr

inductive Error where
  | inactive
  | crypto (fault : CryptoFault)
  | authenticationFailed
  | replayDetected (index : UInt64)
  | bufferTooSmall (required available : Nat)
  | conflict (fault : Conflict)
  | unsupportedSuite (id : Int)
  | invalidKey (fault : KeyFault)
  | invalidPacket (fault : PacketFault)
  | transport (text : String)
  deriving DecidableEq, Repr

def CryptoFault.message : CryptoFault → String
  | wrongDirection configured wanted =>
    s!"SRTP session is configured for {configured.describe}, not {wanted.describe}"
  | unencryptedControl => "unencrypted SRTCP is not supported with AEAD"
  | noAuthKey suite => s!"{suite.name} does not expose an authentication key"
  | sealRefused => "AES-GCM encryption failed"
  | tagTooLong length => s!"Authentication tag length {length} exceeds HMAC-SHA1 output"
  | other text => text

def Conflict.message : Conflict → String
  | sessionConfigured direction suite =>
    s!"SRTP session already configured for {direction.describe} with {suite.name}"
  | controlParamsSet => "SRTCP params already set"
  | other text => text

def KeyFault.message : KeyFault → String
  | cipherKeyLength length => s!"unsupported AES key length {length}"
  | aeadKeyLength length => s!"unsupported AES-GCM key length {length}"
  | materialLength suite length =>
    s!"{suite.name} needs {suite.materialLength} bytes of keying material, got {length}"
  | saltTooLong length => s!"Salt too long: expected at most 14 bytes, got {length}"
  | other text => text

def PacketFault.message : PacketFault → String
  | longerThanBuffer length available => s!"packet length {length} exceeds buffer of {available} bytes"
  | malformedHeader length => s!"malformed RTP header ({length} bytes)"
  | controlTooShort length => s!"RTCP packet too short: {length} bytes"
  | protectedTooShort length => s!"SRTP packet too short: {length} bytes"
  | malformedProtectedHeader => "malformed SRTP header"
  | protectedControlTooShort length => s!"SRTCP packet too short: {length} bytes"
  | noRoomForTag tagLength length => s!"cannot place a {tagLength} byte auth tag in a {length} byte packet"
  | missingIndex => "missing SRTP packet index for external auth"
  | tagLongerThanDigest tagLength => s!"auth tag length {tagLength} exceeds HMAC output"
  | other text => text

namespace Error

def message : Error → String
  | inactive => "SRTP transport is inactive"
  | crypto fault => s!"SRTP crypto failure: {fault.message}"
  | authenticationFailed => "SRTP authentication failed"
  | replayDetected index => s!"SRTP replay detected for packet index {index.toNat}"
  | bufferTooSmall required available =>
    s!"Buffer too small for SRTP packet: need {required} but have {available}"
  | conflict fault => s!"Configuration conflict: {fault.message}"
  | unsupportedSuite id => s!"Unsupported cipher suite: {id}"
  | invalidKey fault => s!"Invalid key: {fault.message}"
  | invalidPacket fault => s!"Invalid packet: {fault.message}"
  | transport text => s!"Transport error: {text}"

def isCryptoFailure : Error → Bool
  | crypto _ | authenticationFailed | replayDetected _ | bufferTooSmall _ _ | invalidPacket _ => true
  | inactive | conflict _ | unsupportedSuite _ | invalidKey _ | transport _ => false

end Error

def Suite.ofId (n : Int) : Except Error Suite :=
  match ofId? n with
  | some suite => .ok suite
  | none => .error (.unsupportedSuite n)

end SecureRtp
