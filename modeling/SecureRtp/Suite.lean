namespace SecureRtp

inductive Suite where
  | aesCm128HmacSha1_80
  | aesCm128HmacSha1_32
  | aeadAes128Gcm
  | aeadAes256Gcm
  deriving DecidableEq, Repr

namespace Suite

def all : List Suite := [aesCm128HmacSha1_80, aesCm128HmacSha1_32, aeadAes128Gcm, aeadAes256Gcm]

def id : Suite → Int
  | aesCm128HmacSha1_80 => 1
  | aesCm128HmacSha1_32 => 2
  | aeadAes128Gcm => 7
  | aeadAes256Gcm => 8

def name : Suite → String
  | aesCm128HmacSha1_80 => "AES_CM_128_HMAC_SHA1_80"
  | aesCm128HmacSha1_32 => "AES_CM_128_HMAC_SHA1_32"
  | aeadAes128Gcm => "AEAD_AES_128_GCM"
  | aeadAes256Gcm => "AEAD_AES_256_GCM"

def label : Suite → String
  | aesCm128HmacSha1_80 => "AesCm128HmacSha1_80"
  | aesCm128HmacSha1_32 => "AesCm128HmacSha1_32"
  | aeadAes128Gcm => "AeadAes128Gcm"
  | aeadAes256Gcm => "AeadAes256Gcm"

def ofId? (n : Int) : Option Suite := all.find? (·.id = n)

def ofName? (text : String) : Option Suite := all.find? (·.name = text)

def ofLabel? (text : String) : Option Suite := all.find? (·.label = text)

def isAead : Suite → Bool
  | aesCm128HmacSha1_80 | aesCm128HmacSha1_32 => false
  | aeadAes128Gcm | aeadAes256Gcm => true

def supportsExternalAuth (s : Suite) : Bool := !s.isAead

def keyLength : Suite → Nat
  | aeadAes256Gcm => 32
  | _ => 16

def saltLength (s : Suite) : Nat := if s.isAead then 12 else 14

def materialLength (s : Suite) : Nat := s.keyLength + s.saltLength

def rtpTagLength : Suite → Nat
  | aesCm128HmacSha1_80 => 10
  | aesCm128HmacSha1_32 => 4
  | aeadAes128Gcm | aeadAes256Gcm => 16

def rtcpTagLength : Suite → Nat
  | aesCm128HmacSha1_80 | aesCm128HmacSha1_32 => 10
  | aeadAes128Gcm | aeadAes256Gcm => 16

end Suite

end SecureRtp
