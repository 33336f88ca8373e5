import SecureRtp.Cipher.Aes
import SecureRtp.Error

namespace SecureRtp.Galois

abbrev Nonce := BitVec 96

def Nonce.ofBytes (bytes : Bytes) : Nonce := BitVec.ofNat 96 (beNat (bytes.rightpad 12 0))

def Nonce.toBytes (n : Nonce) : Bytes := beBytes 12 n.toNat

def tagLength : Nat := 16

/-- Multiply by `x`. The lowest power is the highest bit, and `x ^ 128 = 1 + x + x ^ 2 + x ^ 7`. -/
def shift (v : Block) : Block :=
  if v.getLsbD 0 then (v >>> 1) ^^^ 0xe1000000000000000000000000000000#128 else v >>> 1

def accumulate (bits : Block) : Nat → Block → Block → Block
  | 0, _, sum => sum
  | n + 1, v, sum => accumulate bits n (shift v) (if bits.getLsbD n then sum ^^^ v else sum)

def multiply (a b : Block) : Block := accumulate a 128 b 0

def hash (h : Block) (blocks : List Block) : Block := blocks.foldl (fun y b => multiply (y ^^^ b) h) 0

def blocks (bytes : Bytes) : List Block := (groups 16 (groupCount 16 bytes.length) bytes).map Block.ofBytes

def lengths (aad data : Bytes) : Block := BitVec.ofNat 64 (8 * aad.length) ++ BitVec.ofNat 64 (8 * data.length)

def counterBlock (nonce : Nonce) (i : Nat) : Block := nonce ++ BitVec.ofNat 32 i

def keystream (key : Aes.Key) (nonce : Nonce) (length : Nat) : Bytes :=
  ((List.range (groupCount 16 length)).flatMap fun i =>
    (Aes.encrypt key (counterBlock nonce (i + 2))).toBytes).take length

def apply (key : Aes.Key) (nonce : Nonce) (data : Bytes) : Bytes :=
  xorBytes data (keystream key nonce data.length)

def tag (key : Aes.Key) (nonce : Nonce) (aad ciphertext : Bytes) : Bytes :=
  let sum := hash (Aes.encrypt key 0) (blocks aad ++ blocks ciphertext ++ [lengths aad ciphertext])
  (sum ^^^ Aes.encrypt key (counterBlock nonce 1)).toBytes

def maxLength : Nat := 0x1000000000

def keyOfBytes (bytes : Bytes) : Except Error Aes.Key :=
  match Aes.Key.ofBytes? bytes with
  | some key => .ok key
  | none => .error (.invalidKey (.aeadKeyLength bytes.length))

def encrypt (key : Aes.Key) (nonce : Nonce) (aad data : Bytes) : Except Error (Bytes × Bytes) :=
  if data.length > maxLength ∨ aad.length > maxLength then .error (.crypto .sealRefused)
  else
    let ciphertext := apply key nonce data
    .ok (ciphertext, tag key nonce aad ciphertext)

def decrypt (key : Aes.Key) (nonce : Nonce) (aad data received : Bytes) : Except Error Bytes :=
  if data.length > maxLength + tagLength ∨ aad.length > maxLength then .error .authenticationFailed
  else if tag key nonce aad data = received then .ok (apply key nonce data)
  else .error .authenticationFailed

end SecureRtp.Galois
