import SecureRtp.Bytes
import SecureRtp.Error
import SecureRtp.Text.Record

namespace SecureRtp

structure MasterKey where
  key : Bytes
  salt : Bytes
  deriving DecidableEq, Repr

namespace MasterKey

def material (m : MasterKey) : Bytes := m.key ++ m.salt

def ofMaterial (suite : Suite) (material : Bytes) : Except Error MasterKey :=
  if material.length = suite.materialLength then
    .ok ⟨material.take suite.keyLength, material.drop suite.keyLength⟩
  else .error (.invalidKey (.materialLength suite material.length))

def ofRandom (suite : Suite) (random : Nat → UInt8) : MasterKey :=
  ⟨(List.range suite.keyLength).map random,
    (List.range suite.saltLength).map fun i => random (suite.keyLength + i)⟩

def describe (m : MasterKey) : String :=
  Text.record "SrtpCryptoKey" [("key_len", Text.number m.key.length), ("salt_len", Text.number m.salt.length)]

end MasterKey

end SecureRtp
