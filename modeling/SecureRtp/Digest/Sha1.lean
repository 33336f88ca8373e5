import SecureRtp.Bytes

namespace SecureRtp.Sha1

structure State where
  a : UInt32
  b : UInt32
  c : UInt32
  d : UInt32
  e : UInt32
  deriving DecidableEq, Repr

def start : State := ⟨0x67452301, 0xefcdab89, 0x98badcfe, 0x10325476, 0xc3d2e1f0⟩

def rotate (x n : UInt32) : UInt32 := (x <<< n) ||| (x >>> (32 - n))

def roundFunction (t : Nat) (b c d : UInt32) : UInt32 :=
  if t < 20 then ((b &&& c) ||| (~~~b &&& d)) + 0x5a827999
  else if t < 40 then (b ^^^ c ^^^ d) + 0x6ed9eba1
  else if t < 60 then ((b &&& c) ||| (b &&& d) ||| (c &&& d)) + 0x8f1bbcdc
  else (b ^^^ c ^^^ d) + 0xca62c1d6

def step (s : State) (word : UInt32) (t : Nat) : State :=
  ⟨rotate s.a 5 + roundFunction t s.b s.c s.d + s.e + word, s.a, rotate s.b 30, s.c, s.d⟩

def earlier (words : List UInt32) (back : Nat) : UInt32 := words.getD (back - 1) 0

def extend : Nat → List UInt32 → List UInt32
  | 0, words => words
  | n + 1, words =>
    extend n (rotate (earlier words 3 ^^^ earlier words 8 ^^^ earlier words 14 ^^^ earlier words 16) 1 :: words)

def wordsOfGroup (group : Bytes) : List UInt32 := (groups 4 16 group).map fun g => UInt32.ofNat (beNat g)

def compress (s : State) (group : Bytes) : State :=
  let words := (extend 64 (wordsOfGroup group).reverse).reverse
  let t := words.zipIdx.foldl (fun t (w, i) => step t w i) s
  ⟨s.a + t.a, s.b + t.b, s.c + t.c, s.d + t.d, s.e + t.e⟩

def pad (message : Bytes) : Bytes :=
  message ++ 0x80 :: zeros ((119 - message.length % 64) % 64) ++ beBytes 8 (8 * message.length)

def State.toBytes (s : State) : Bytes := [s.a, s.b, s.c, s.d, s.e].flatMap fun w => beBytes 4 w.toNat

def digest (message : Bytes) : Bytes :=
  let padded := pad message
  ((groups 64 (padded.length / 64) padded).foldl compress start).toBytes

@[simp] theorem length_digest (message : Bytes) : (digest message).length = 20 := by
  simp [digest, State.toBytes]

end SecureRtp.Sha1
