import SecureRtp.Cipher.Aes
import SecureRtp.Error

namespace SecureRtp.CounterMode

def counterBlock (iv : Block) (i : Nat) : Block := iv + BitVec.ofNat 128 i

def keystream (key : Aes.Key) (iv : Block) (length : Nat) : Bytes :=
  ((List.range (groupCount 16 length)).flatMap fun i => (Aes.encrypt key (counterBlock iv i)).toBytes).take length

def apply (key : Aes.Key) (iv : Block) (data : Bytes) : Bytes := xorBytes data (keystream key iv data.length)

def transform (key : Bytes) (iv : Block) (data : Bytes) : Except Error Bytes :=
  match Aes.Key.ofBytes? key with
  | some key => .ok (apply key iv data)
  | none => .error (.invalidKey (.cipherKeyLength key.length))

end SecureRtp.CounterMode
