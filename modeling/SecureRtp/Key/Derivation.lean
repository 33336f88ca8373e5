import SecureRtp.Key.Master
import SecureRtp.Cipher.CounterMode

namespace SecureRtp

inductive KeyLabel where
  | rtpEncryption
  | rtpAuthentication
  | rtpSalt
  | rtcpEncryption
  | rtcpAuthentication
  | rtcpSalt
  | headerEncryption
  | headerSalt
  deriving DecidableEq, Repr

def KeyLabel.code : KeyLabel → Nat
  | rtpEncryption => 0
  | rtpAuthentication => 1
  | rtpSalt => 2
  | rtcpEncryption => 3
  | rtcpAuthentication => 4
  | rtcpSalt => 5
  | headerEncryption => 6
  | headerSalt => 7

def KeyLabel.all : List KeyLabel :=
  [rtpEncryption, rtpAuthentication, rtpSalt, rtcpEncryption, rtcpAuthentication, rtcpSalt, headerEncryption,
    headerSalt]

def KeyLabel.iv (label : KeyLabel) (salt : Bytes) : Block :=
  Block.ofBytes salt ^^^ (BitVec.ofNat 128 label.code <<< 64)

def MasterKey.derive (master : MasterKey) (label : KeyLabel) (length : Nat) : Except Error Bytes :=
  if master.salt.length > 14 then .error (.invalidKey (.saltTooLong master.salt.length))
  else CounterMode.transform master.key (label.iv master.salt) (zeros length)

structure SessionKeys where
  cipherKey : Bytes
  authKey : Bytes
  salt : Bytes
  deriving DecidableEq, Repr

namespace SessionKeys

def authKeyLength : Nat := 20

def derive (suite : Suite) (master : MasterKey) (cipher : KeyLabel) (auth : Option KeyLabel) (salt : KeyLabel) :
    Except Error SessionKeys := do
  let cipherKey ← master.derive cipher suite.keyLength
  let authKey ← match auth with
    | some label => if suite.isAead then pure [] else master.derive label authKeyLength
    | none => pure []
  let salt ← master.derive salt suite.saltLength
  pure ⟨cipherKey, authKey, salt⟩

def deriveRtp (suite : Suite) (master : MasterKey) : Except Error SessionKeys :=
  derive suite master .rtpEncryption (some .rtpAuthentication) .rtpSalt

def deriveRtcp (suite : Suite) (master : MasterKey) : Except Error SessionKeys :=
  derive suite master .rtcpEncryption (some .rtcpAuthentication) .rtcpSalt

def deriveHeader (suite : Suite) (master : MasterKey) : Except Error SessionKeys :=
  derive suite master .headerEncryption none .headerSalt

def describe (k : SessionKeys) : String :=
  Text.record "SessionKeys"
    [("cipher_key_len", Text.number k.cipherKey.length), ("auth_key_len", Text.number k.authKey.length),
      ("salt_len", Text.number k.salt.length)]

end SessionKeys

end SecureRtp
