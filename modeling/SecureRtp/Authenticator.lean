import SecureRtp.Digest.Hmac
import SecureRtp.Error
import SecureRtp.Text.Record

namespace SecureRtp

structure Authenticator where
  key : Bytes
  tagLength : Nat
  deriving DecidableEq, Repr

namespace Authenticator

def tag (a : Authenticator) (message : Bytes) : Except Error Bytes :=
  let digest := Hmac.digest a.key message
  if a.tagLength > digest.length then .error (.crypto (.tagTooLong a.tagLength))
  else .ok (digest.take a.tagLength)

def rtpTag (a : Authenticator) (packet : Bytes) (roc : UInt32) : Except Error Bytes :=
  a.tag (packet ++ beBytes 4 roc.toNat)

def rtcpTag (a : Authenticator) (packet : Bytes) : Except Error Bytes := a.tag packet

def verifyRtp (a : Authenticator) (packet : Bytes) (roc : UInt32) (received : Bytes) : Except Error Bool :=
  return (← a.rtpTag packet roc) = received

def verifyRtcp (a : Authenticator) (packet received : Bytes) : Except Error Bool :=
  return (← a.rtcpTag packet) = received

def describe (a : Authenticator) : String :=
  Text.record "RtpAuthParams" [("key_len", Text.number a.key.length), ("tag_len", Text.number a.tagLength)]

end Authenticator

end SecureRtp
