import Std.Data.TreeMap
import SecureRtp.Notice
import SecureRtp.Replay.Window
import SecureRtp.Session.Crypto

namespace SecureRtp

structure Reply (σ α : Type) where
  outcome : Except Error α
  state : σ
  notices : List Notice := []

structure PacketReply (σ α : Type) extends Reply σ α where
  bytes : Bytes

def PacketReply.mapState {σ τ α : Type} (f : σ → τ) (r : PacketReply σ α) : PacketReply τ α :=
  ⟨⟨r.outcome, f r.state, r.notices⟩, r.bytes⟩

structure SessionCrypto where
  suite : Suite
  rtp : StreamCrypto
  rtcp : StreamCrypto
  header : SessionKeys
  deriving DecidableEq, Repr

def SessionCrypto.ofMaterial (suite : Suite) (material : Bytes) : Except Error SessionCrypto := do
  let master ← MasterKey.ofMaterial suite material
  let rtp ← StreamCrypto.ofKeys suite (← SessionKeys.deriveRtp suite master) suite.rtpTagLength
  let rtcp ← StreamCrypto.ofKeys suite (← SessionKeys.deriveRtcp suite master) suite.rtcpTagLength
  let header ← SessionKeys.deriveHeader suite master
  pure ⟨suite, rtp, rtcp, header⟩

def defaultReplayWindow : UInt64 := 1024

structure Settings where
  replayWindow : UInt64 := defaultReplayWindow
  encryptedIds : List UInt8 := []
  externalAuth : Bool := false
  deriving DecidableEq, Repr

structure Sender where
  crypto : SessionCrypto
  positions : Std.TreeMap UInt32 Position := {}
  controlIndices : Std.TreeMap UInt32 UInt32 := {}

structure ReceiveStream where
  highest : Position
  window : Replay.Window

structure Receiver where
  crypto : SessionCrypto
  streams : Std.TreeMap UInt32 ReceiveStream := {}
  controlWindows : Std.TreeMap UInt32 Replay.Window := {}

inductive Role where
  | idle
  | sending (sender : Sender)
  | receiving (receiver : Receiver)

structure Session where
  settings : Settings := {}
  role : Role := .idle

namespace Role

def crypto? : Role → Option SessionCrypto
  | idle => none
  | sending s => some s.crypto
  | receiving r => some r.crypto

def direction? : Role → Option Direction
  | idle => none
  | sending _ => some .send
  | receiving _ => some .recv

def streamCount : Role → Nat
  | idle => 0
  | sending s => s.positions.size
  | receiving r => r.streams.size

def sender : Role → Except Error Sender
  | idle => .error .inactive
  | sending s => .ok s
  | receiving _ => .error (.crypto (.wrongDirection .recv .send))

def receiver : Role → Except Error Receiver
  | idle => .error .inactive
  | sending _ => .error (.crypto (.wrongDirection .send .recv))
  | receiving r => .ok r

end Role

namespace Session

def ofWindow (replayWindow : UInt64) : Session := { settings := { replayWindow } }

def suite? (s : Session) : Option Suite := s.role.crypto?.map (·.suite)

def roleOf (direction : Direction) (crypto : SessionCrypto) : Role :=
  match direction with
  | .send => .sending { crypto }
  | .recv => .receiving { crypto }

def configure (s : Session) (direction : Direction) (suite : Suite) (material : Bytes) : Reply Session Unit :=
  match s.role.direction?, s.suite? with
  | some configured, some existing => ⟨.error (.conflict (.sessionConfigured configured existing)), s, []⟩
  | _, _ =>
    match SessionCrypto.ofMaterial suite material with
    | .ok crypto =>
      ⟨.ok (), { s with role := roleOf direction crypto }, [.sessionConfigured direction suite]⟩
    | .error e => ⟨.error e, s, []⟩

def setEncryptedIds (s : Session) (ids : List UInt8) : Session :=
  { s with settings := { s.settings with encryptedIds := ids } }

def enableExternalAuth (s : Session) : Session :=
  { s with settings := { s.settings with externalAuth := true } }

def externalAuthActive (s : Session) : Bool :=
  match s.role with
  | .sending sender => s.settings.externalAuth && sender.crypto.suite.supportsExternalAuth
  | _ => false

def authParams (s : Session) : Except Error Authenticator := do
  let sender ← s.role.sender
  match sender.crypto.rtp with
  | .counterMode _ _ auth => pure auth
  | .galois .. => throw (.crypto (.noAuthKey sender.crypto.suite))

def overhead (s : Session) (kind : PacketKind) : Nat :=
  match s.suite?, kind with
  | none, _ => 0
  | some suite, .rtp => suite.rtpTagLength
  | some suite, .rtcp => suite.rtcpTagLength + controlIndexLength

def describe (s : Session) : String :=
  Text.record "SrtpSession"
    [("suite", Text.optional Suite.label s.suite?),
      ("direction", Text.optional Direction.describe s.role.direction?),
      ("external_auth_enabled", Text.flag s.settings.externalAuth),
      ("streams", Text.number s.role.streamCount)]

end Session

end SecureRtp
