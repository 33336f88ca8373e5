import SecureRtp.Bytes

namespace SecureRtp

abbrev Block := BitVec 128

def Block.ofBytes (bytes : Bytes) : Block := BitVec.ofNat 128 (beNat (bytes.rightpad 16 0))

def Block.toBytes (b : Block) : Bytes := beBytes 16 b.toNat

@[simp] theorem Block.length_toBytes (b : Block) : b.toBytes.length = 16 := length_beBytes 16 _

namespace Aes

structure Columns where
  a : UInt32
  b : UInt32
  c : UInt32
  d : UInt32
  deriving DecidableEq, Repr

def Columns.xor (x y : Columns) : Columns := ⟨x.a ^^^ y.a, x.b ^^^ y.b, x.c ^^^ y.c, x.d ^^^ y.d⟩

def Columns.ofBlock (block : Block) : Columns :=
  ⟨UInt32.ofBitVec (block.extractLsb' 96 32), UInt32.ofBitVec (block.extractLsb' 64 32),
    UInt32.ofBitVec (block.extractLsb' 32 32), UInt32.ofBitVec (block.extractLsb' 0 32)⟩

def Columns.toBlock (x : Columns) : Block :=
  (x.a.toBitVec ++ x.b.toBitVec ++ (x.c.toBitVec ++ x.d.toBitVec) : BitVec 128)

set_option maxRecDepth 2000 in
def substitution : Vector UInt8 256 := #v[
  0x63, 0x7c, 0x77, 0x7b, 0xf2, 0x6b, 0x6f, 0xc5, 0x30, 0x01, 0x67, 0x2b, 0xfe, 0xd7, 0xab, 0x76,
  0xca, 0x82, 0xc9, 0x7d, 0xfa, 0x59, 0x47, 0xf0, 0xad, 0xd4, 0xa2, 0xaf, 0x9c, 0xa4, 0x72, 0xc0,
  0xb7, 0xfd, 0x93, 0x26, 0x36, 0x3f, 0xf7, 0xcc, 0x34, 0xa5, 0xe5, 0xf1, 0x71, 0xd8, 0x31, 0x15,
  0x04, 0xc7, 0x23, 0xc3, 0x18, 0x96, 0x05, 0x9a, 0x07, 0x12, 0x80, 0xe2, 0xeb, 0x27, 0xb2, 0x75,
  0x09, 0x83, 0x2c, 0x1a, 0x1b, 0x6e, 0x5a, 0xa0, 0x52, 0x3b, 0xd6, 0xb3, 0x29, 0xe3, 0x2f, 0x84,
  0x53, 0xd1, 0x00, 0xed, 0x20, 0xfc, 0xb1, 0x5b, 0x6a, 0xcb, 0xbe, 0x39, 0x4a, 0x4c, 0x58, 0xcf,
  0xd0, 0xef, 0xaa, 0xfb, 0x43, 0x4d, 0x33, 0x85, 0x45, 0xf9, 0x02, 0x7f, 0x50, 0x3c, 0x9f, 0xa8,
  0x51, 0xa3, 0x40, 0x8f, 0x92, 0x9d, 0x38, 0xf5, 0xbc, 0xb6, 0xda, 0x21, 0x10, 0xff, 0xf3, 0xd2,
  0xcd, 0x0c, 0x13, 0xec, 0x5f, 0x97, 0x44, 0x17, 0xc4, 0xa7, 0x7e, 0x3d, 0x64, 0x5d, 0x19, 0x73,
  0x60, 0x81, 0x4f, 0xdc, 0x22, 0x2a, 0x90, 0x88, 0x46, 0xee, 0xb8, 0x14, 0xde, 0x5e, 0x0b, 0xdb,
  0xe0, 0x32, 0x3a, 0x0a, 0x49, 0x06, 0x24, 0x5c, 0xc2, 0xd3, 0xac, 0x62, 0x91, 0x95, 0xe4, 0x79,
  0xe7, 0xc8, 0x37, 0x6d, 0x8d, 0xd5, 0x4e, 0xa9, 0x6c, 0x56, 0xf4, 0xea, 0x65, 0x7a, 0xae, 0x08,
  0xba, 0x78, 0x25, 0x2e, 0x1c, 0xa6, 0xb4, 0xc6, 0xe8, 0xdd, 0x74, 0x1f, 0x4b, 0xbd, 0x8b, 0x8a,
  0x70, 0x3e, 0xb5, 0x66, 0x48, 0x03, 0xf6, 0x0e, 0x61, 0x35, 0x57, 0xb9, 0x86, 0xc1, 0x1d, 0x9e,
  0xe1, 0xf8, 0x98, 0x11, 0x69, 0xd9, 0x8e, 0x94, 0x9b, 0x1e, 0x87, 0xe9, 0xce, 0x55, 0x28, 0xdf,
  0x8c, 0xa1, 0x89, 0x0d, 0xbf, 0xe6, 0x42, 0x68, 0x41, 0x99, 0x2d, 0x0f, 0xb0, 0x54, 0xbb, 0x16]

def sub (x : UInt8) : UInt8 := substitution.get ⟨x.toNat, x.toNat_lt⟩

def column (w x y z : UInt8) : UInt32 :=
  (w.toUInt32 <<< 24) ||| (x.toUInt32 <<< 16) ||| (y.toUInt32 <<< 8) ||| z.toUInt32

def top (x : UInt32) : UInt8 := (x >>> 24).toUInt8
def upper (x : UInt32) : UInt8 := (x >>> 16).toUInt8
def lower (x : UInt32) : UInt8 := (x >>> 8).toUInt8
def bottom (x : UInt32) : UInt8 := x.toUInt8

def rotate (x n : UInt32) : UInt32 := (x <<< n) ||| (x >>> (32 - n))

def subColumn (x : UInt32) : UInt32 := column (sub (top x)) (sub (upper x)) (sub (lower x)) (sub (bottom x))

def subShift (s : Columns) : Columns :=
  ⟨column (sub (top s.a)) (sub (upper s.b)) (sub (lower s.c)) (sub (bottom s.d)),
    column (sub (top s.b)) (sub (upper s.c)) (sub (lower s.d)) (sub (bottom s.a)),
    column (sub (top s.c)) (sub (upper s.d)) (sub (lower s.a)) (sub (bottom s.b)),
    column (sub (top s.d)) (sub (upper s.a)) (sub (lower s.b)) (sub (bottom s.c))⟩

def double (x : UInt32) : UInt32 :=
  ((x &&& 0x7f7f7f7f) <<< 1) ^^^ (((x >>> 7) &&& 0x01010101) * 0x1b)

def mixColumn (x : UInt32) : UInt32 :=
  let twice := double x
  twice ^^^ rotate (twice ^^^ x) 8 ^^^ rotate x 16 ^^^ rotate x 24

def mix (s : Columns) : Columns := ⟨mixColumn s.a, mixColumn s.b, mixColumn s.c, mixColumn s.d⟩

def chain (key : Columns) (t : UInt32) : Columns :=
  let a := key.a ^^^ t
  let b := key.b ^^^ a
  let c := key.c ^^^ b
  ⟨a, b, c, key.d ^^^ c⟩

def roundConstants : List UInt32 :=
  [0x01000000, 0x02000000, 0x04000000, 0x08000000, 0x10000000, 0x20000000, 0x40000000, 0x80000000,
    0x1b000000, 0x36000000]

def expandShort : Columns → List UInt32 → List Columns
  | key, [] => [key]
  | key, r :: rs => key :: expandShort (chain key (subColumn (rotate key.d 8) ^^^ r)) rs

def expandLong : Columns → Columns → List UInt32 → List Columns
  | even, _, [] => [even]
  | even, odd, r :: rs =>
    let even' := chain even (subColumn (rotate odd.d 8) ^^^ r)
    even :: odd :: expandLong even' (chain odd (subColumn even'.d)) rs

structure Key where
  rounds : List Columns
  deriving DecidableEq, Repr

def Key.ofBytes? (bytes : Bytes) : Option Key :=
  let half := Columns.ofBlock (Block.ofBytes (bytes.take 16))
  if bytes.length = 16 then some ⟨expandShort half roundConstants⟩
  else if bytes.length = 32 then
    some ⟨expandLong half (Columns.ofBlock (Block.ofBytes (bytes.drop 16))) (roundConstants.take 7)⟩
  else none

def applyRounds : List Columns → Columns → Columns
  | [], s => s
  | [key], s => (subShift s).xor key
  | key :: keys, s => applyRounds keys ((mix (subShift s)).xor key)

def encrypt (key : Key) (block : Block) : Block :=
  match key.rounds with
  | [] => block
  | first :: rest => (applyRounds rest ((Columns.ofBlock block).xor first)).toBlock

theorem Key.ofBytes?_isSome {bytes : Bytes} :
    (Key.ofBytes? bytes).isSome ↔ bytes.length = 16 ∨ bytes.length = 32 := by
  simp only [Key.ofBytes?]
  split
  · simp [*]
  · split <;> simp [*]

end Aes

end SecureRtp
