import SecureRtp.Authenticator
import SecureRtp.Key.Derivation
import SecureRtp.Packet.Edit
import SecureRtp.Packet.Extension
import SecureRtp.Session.Nonce
import SecureRtp.Session.Position
/-!
How one packet is sealed and opened in place. A media packet is its header, the encrypted payload and a tag.
A control packet carries its index word too: before the tag under an HMAC suite, after it under a GCM suite.
-/
namespace SecureRtp

inductive StreamCrypto where
  | counterMode (key salt : Bytes) (auth : Authenticator)
  | galois (key : Aes.Key) (salt : Bytes)
  deriving DecidableEq, Repr

def controlIndexLength : Nat := 4

def encryptedFlag : UInt32 := 0x80000000

def controlIndexMask : UInt32 := 0x7fffffff

def indexWord (index : UInt32) : Bytes := beBytes 4 (encryptedFlag ||| (index &&& controlIndexMask)).toNat

namespace StreamCrypto

def ofKeys (suite : Suite) (keys : SessionKeys) (tagLength : Nat) : Except Error StreamCrypto :=
  if suite.isAead then (Galois.keyOfBytes keys.cipherKey).map (galois · keys.salt)
  else .ok (counterMode keys.cipherKey keys.salt ⟨keys.authKey, tagLength⟩)

def isGalois : StreamCrypto → Bool
  | galois .. => true
  | counterMode .. => false

theorem isGalois_of_ofKeys {suite : Suite} {keys : SessionKeys} {tagLength : Nat} {c : StreamCrypto}
    (h : ofKeys suite keys tagLength = .ok c) : c.isGalois = suite.isAead := by
  rw [ofKeys] at h
  cases hs : suite.isAead with
  | true =>
    rw [hs, if_pos rfl] at h
    cases hk : Galois.keyOfBytes keys.cipherKey <;> rw [hk] at h <;> cases h
    rfl
  | false =>
    rw [hs, if_neg Bool.false_ne_true] at h
    cases h
    rfl

def sealRtp (c : StreamCrypto) (external : Bool) (ssrc : UInt32) (p : Position) (headerLength length : Nat) :
    Edit Unit := do
  let packet ← get
  let payload := slice packet headerLength length
  match c with
  | galois key salt =>
    let nonce := Nonce.galoisRtp salt ssrc p.roc p.seq
    let (ciphertext, tag) ← Edit.lift (Galois.encrypt key nonce (packet.take headerLength) payload)
    Edit.replace headerLength ciphertext
    Edit.replace length tag
  | counterMode key salt auth =>
    let nonce := Nonce.counterMode salt ssrc p.index
    Edit.replace headerLength (← Edit.lift (CounterMode.transform key nonce payload))
    if external then Edit.replace length (zeros auth.tagLength)
    else Edit.replace length (← Edit.lift (auth.rtpTag ((← get).take length) p.roc))

def openRtp (c : StreamCrypto) (ssrc : UInt32) (p : Position) (headerLength length : Nat) : Edit Unit := do
  let packet ← get
  let payload := slice packet headerLength length
  let tag := packet.drop length
  match c with
  | galois key salt =>
    let nonce := Nonce.galoisRtp salt ssrc p.roc p.seq
    Edit.replace headerLength (← Edit.lift (Galois.decrypt key nonce (packet.take headerLength) payload tag))
  | counterMode key salt auth =>
    if ← Edit.lift (auth.verifyRtp (packet.take length) p.roc tag) then
      let nonce := Nonce.counterMode salt ssrc p.index
      Edit.replace headerLength (← Edit.lift (CounterMode.transform key nonce payload))
    else throw .authenticationFailed

def sealRtcp (c : StreamCrypto) (ssrc index : UInt32) (length : Nat) : Edit Unit := do
  let packet ← get
  let word := indexWord index
  let payload := slice packet Rtcp.headerLength length
  match c with
  | galois key salt =>
    let aad := packet.take Rtcp.headerLength ++ word
    let (ciphertext, tag) ← Edit.lift (Galois.encrypt key (Nonce.galoisRtcp salt ssrc index) aad payload)
    Edit.replace Rtcp.headerLength ciphertext
    Edit.replace length tag
    Edit.replace (length + tag.length) word
  | counterMode key salt auth =>
    let nonce := Nonce.counterMode salt ssrc index.toUInt64
    Edit.replace Rtcp.headerLength (← Edit.lift (CounterMode.transform key nonce payload))
    Edit.replace length word
    let tag ← Edit.lift (auth.rtcpTag ((← get).take (length + controlIndexLength)))
    Edit.replace (length + controlIndexLength) tag

structure ControlTrailer where
  textEnd : Nat
  word : UInt32

def ControlTrailer.encrypted (t : ControlTrailer) : Bool := t.word &&& encryptedFlag != 0

def ControlTrailer.index (t : ControlTrailer) : UInt32 := t.word &&& controlIndexMask

def controlTrailer (c : StreamCrypto) (packet : Bytes) (tagLength : Nat) : ControlTrailer :=
  let textEnd := packet.length - tagLength - controlIndexLength
  let start := match c with
    | galois .. => packet.length - controlIndexLength
    | counterMode .. => textEnd
  ⟨textEnd, UInt32.ofNat (beNat (slice packet start (start + controlIndexLength)))⟩

def openRtcp (c : StreamCrypto) (ssrc : UInt32) (trailer : ControlTrailer) : Edit Unit := do
  let packet ← get
  let payload := slice packet Rtcp.headerLength trailer.textEnd
  match c with
  | galois key salt =>
    if trailer.encrypted then
      let tag := slice packet trailer.textEnd (packet.length - controlIndexLength)
      let aad := packet.take Rtcp.headerLength ++ packet.drop (packet.length - controlIndexLength)
      let nonce := Nonce.galoisRtcp salt ssrc trailer.index
      Edit.replace Rtcp.headerLength (← Edit.lift (Galois.decrypt key nonce aad payload tag))
    else throw (.crypto .unencryptedControl)
  | counterMode key salt auth =>
    let tagStart := trailer.textEnd + controlIndexLength
    if ← Edit.lift (auth.verifyRtcp (packet.take tagStart) (packet.drop tagStart)) then
      if trailer.encrypted then
        let nonce := Nonce.counterMode salt ssrc trailer.index.toUInt64
        Edit.replace Rtcp.headerLength (← Edit.lift (CounterMode.transform key nonce payload))
    else throw .authenticationFailed

end StreamCrypto

def maskElements (elements : List Rtp.Element) (keystream header : Bytes) : Bytes :=
  elements.foldl (fun header e =>
    overwrite header e.start (xorBytes (slice header e.start e.stop) (slice keystream e.start e.stop))) header

def maskHeader (keys : SessionKeys) (ids : List UInt8) (ssrc : UInt32) (index : UInt64) (header : Bytes) :
    Except Error Bytes :=
  match (Rtp.elements header).filter fun e => ids.contains e.id with
  | [] => .ok header
  | elements => do
    let keystream ←
      CounterMode.transform keys.cipherKey (Nonce.counterMode keys.salt ssrc index) (zeros header.length)
    pure (maskElements elements keystream header)

def maskPacketHeader (keys : SessionKeys) (ids : List UInt8) (ssrc : UInt32) (index : UInt64)
    (headerLength : Nat) : Edit Unit := do
  Edit.replace 0 (← Edit.lift (maskHeader keys ids ssrc index ((← get).take headerLength)))

end SecureRtp
