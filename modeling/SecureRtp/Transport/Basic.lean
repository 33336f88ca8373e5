import SecureRtp.Listeners
import SecureRtp.Session.Receive
import SecureRtp.Session.Send
import SecureRtp.Transport.Carrier
import SecureRtp.Transport.Config
import SecureRtp.Transport.Stats
/-!
Secure transports. A transport protects what it sends over its carrier and checks what arrives, once it has
keys. Control packets use the sessions for media until they get sessions of their own.
-/
namespace SecureRtp

structure SessionPair where
  send : Session
  recv : Session

inductive Activation where
  | unconfigured
  | rtpActive (rtp : SessionPair)
  | rtpAndRtcpActive (rtp rtcp : SessionPair)

namespace Activation

def describe : Activation → String
  | unconfigured => "Unconfigured"
  | rtpActive _ => "RtpActive"
  | rtpAndRtcpActive _ _ => "RtpAndRtcpActive"

def rtp? : Activation → Option SessionPair
  | unconfigured => none
  | rtpActive rtp => some rtp
  | rtpAndRtcpActive rtp _ => some rtp

def sessions? : Activation → PacketKind → Option SessionPair
  | unconfigured, _ => none
  | rtpActive rtp, _ => some rtp
  | rtpAndRtcpActive rtp _, .rtp => some rtp
  | rtpAndRtcpActive _ rtcp, .rtcp => some rtcp

def modify (f : SessionPair → SessionPair) : Activation → PacketKind → Activation
  | unconfigured, _ => unconfigured
  | rtpActive rtp, _ => rtpActive (f rtp)
  | rtpAndRtcpActive rtp rtcp, .rtp => rtpAndRtcpActive (f rtp) rtcp
  | rtpAndRtcpActive rtp rtcp, .rtcp => rtpAndRtcpActive rtp (f rtcp)

end Activation

structure Transport (τ : Type) where
  contentName : String
  carrier : τ
  replayWindow : UInt64 := defaultReplayWindow
  activation : Activation := .unconfigured
  sendEncryptedIds : List UInt8 := []
  recvEncryptedIds : List UInt8 := []
  externalAuth : Bool := false
  sendTimeId : Option UInt8 := none
  listeners : Listeners := {}
  stats : Stats := {}

structure KeyParams where
  sendSuite : Suite
  sendMaterial : Bytes
  recvSuite : Suite
  recvMaterial : Bytes
  deriving DecidableEq, Repr

inductive Misuse where
  | externalAuthWhileActive
  deriving DecidableEq, Repr

def Misuse.message : Misuse → String
  | externalAuthWhileActive => "external auth must be enabled before SRTP params are set"

namespace Transport

variable {τ : Type}

def isActive (t : Transport τ) : Bool := t.activation.rtp?.isSome

def enableExternalAuth (t : Transport τ) : Except Misuse (Transport τ) :=
  if t.isActive then .error .externalAuthWhileActive else .ok { t with externalAuth := true }

def ofConfig [Carrier τ] (carrier : τ) (config : TransportConfig) : Transport τ × List Notice :=
  let carrier := match config.rtcpMux with
    | some on => Carrier.setRtcpMux carrier on
    | none => carrier
  let notices :=
    if config.replayWindow > Replay.maxSize then
      [.windowClamped config.replayWindow config.contentName Replay.maxSize]
    else []
  ({ contentName := config.contentName, carrier, replayWindow := config.replayWindow,
     externalAuth := config.externalAuth, sendTimeId := config.sendTimeId }, notices)

def freshSessions (t : Transport τ) : PacketKind → SessionPair
  | .rtp =>
    let settings : Settings := { replayWindow := t.replayWindow }
    ⟨{ settings := { settings with encryptedIds := t.sendEncryptedIds, externalAuth := t.externalAuth } },
      { settings := { settings with encryptedIds := t.recvEncryptedIds } }⟩
  | .rtcp => ⟨.ofWindow t.replayWindow, .ofWindow t.replayWindow⟩

def createSessions (t : Transport τ) (kind : PacketKind) (params : KeyParams) :
    Except Error SessionPair × List Notice :=
  let fresh := t.freshSessions kind
  let send := fresh.send.configure .send params.sendSuite params.sendMaterial
  match send.outcome with
  | .error e => (.error e, send.notices)
  | .ok () =>
    let recv := fresh.recv.configure .recv params.recvSuite params.recvMaterial
    (recv.outcome.map fun () => ⟨send.state, recv.state⟩, send.notices ++ recv.notices)

/-- New sessions for media. Those for control stay. A failure takes all sessions away. -/
def setRtpParams (t : Transport τ) (params : KeyParams) : Reply (Transport τ) Unit :=
  match t.createSessions .rtp params with
  | (.ok rtp, notices) =>
    let activation := match t.activation with
      | .rtpAndRtcpActive _ rtcp => .rtpAndRtcpActive rtp rtcp
      | _ => .rtpActive rtp
    ⟨.ok (), { t with activation },
      notices ++ [.rtpActivated t.contentName params.sendSuite params.recvSuite]⟩
  | (.error e, notices) =>
    ⟨.error e, { t with activation := .unconfigured }, notices ++ [.rtpParamsRefused t.contentName e]⟩

/-- Sessions for control alone, once after those for media. A failure changes nothing. -/
def setRtcpParams (t : Transport τ) (params : KeyParams) : Reply (Transport τ) Unit :=
  match t.activation with
  | .unconfigured => ⟨.error .inactive, t, [.rtcpParamsBeforeRtp t.contentName]⟩
  | .rtpAndRtcpActive _ _ => ⟨.error (.conflict .controlParamsSet), t, [.rtcpParamsAgain t.contentName]⟩
  | .rtpActive rtp =>
    match t.createSessions .rtcp params with
    | (.ok rtcp, notices) =>
      ⟨.ok (), { t with activation := .rtpAndRtcpActive rtp rtcp },
        notices ++ [.rtcpActivated t.contentName params.sendSuite params.recvSuite]⟩
    | (.error e, notices) => ⟨.error e, t, notices ++ [.rtcpParamsRefused t.contentName e]⟩

def resetParams (t : Transport τ) : Transport τ × List Notice :=
  ({ t with activation := .unconfigured }, [.paramsReset t.contentName])

def setEncryptedIds (t : Transport τ) (source : ContentSource) (ids : List UInt8) : Transport τ × List Notice :=
  let t := match source with
    | .own =>
      { t with
        recvEncryptedIds := ids
        activation := t.activation.modify (fun p => { p with recv := p.recv.setEncryptedIds ids }) .rtp }
    | .peer =>
      { t with
        sendEncryptedIds := ids
        activation := t.activation.modify (fun p => { p with send := p.send.setEncryptedIds ids }) .rtp }
  (t, [.encryptedIdsSet t.contentName source ids])

def externalAuthActive (t : Transport τ) : Bool :=
  match t.activation.rtp? with
  | some rtp => rtp.send.externalAuthActive
  | none => false

def authParams (t : Transport τ) : Except Error Authenticator × List Notice :=
  match t.activation.rtp? with
  | some rtp => (rtp.send.authParams, [])
  | none => (.error .inactive, [.authParamsInactive t.contentName])

def rtpOverhead (t : Transport τ) : Except Error Nat × List Notice :=
  match t.activation.rtp? with
  | some rtp => (.ok (rtp.send.overhead .rtp), [])
  | none => (.error .inactive, [.overheadInactive t.contentName])

def setSendTimeId (t : Transport τ) (id : Option UInt8) : Transport τ := { t with sendTimeId := id }

def setRtcpMux [Carrier τ] (t : Transport τ) (on : Bool) : Transport τ :=
  { t with carrier := Carrier.setRtcpMux t.carrier on }

def modifyCarrier (t : Transport τ) (f : τ → τ) : Transport τ := { t with carrier := f t.carrier }

def modifyListeners (t : Transport τ) (f : Listeners → Listeners) : Transport τ :=
  { t with listeners := f t.listeners }

def describe (t : Transport τ) : String :=
  Text.record "SrtpTransport"
    [("content_name", Text.quoted t.contentName), ("state", t.activation.describe),
      ("external_auth_enabled", Text.flag t.externalAuth), ("listeners", t.listeners.describe)]

end Transport

end SecureRtp
