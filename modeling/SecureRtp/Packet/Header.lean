import SecureRtp.Bytes

namespace SecureRtp

def word16 (hi lo : UInt8) : UInt16 := (hi.toUInt16 <<< 8) ||| lo.toUInt16

def word32 (a b c d : UInt8) : UInt32 :=
  (a.toUInt32 <<< 24) ||| (b.toUInt32 <<< 16) ||| (c.toUInt32 <<< 8) ||| d.toUInt32

namespace Rtp

def fixedLength : Nat := 12

def seq? : Bytes → Option UInt16
  | _ :: _ :: s1 :: s0 :: _ :: _ :: _ :: _ :: _ :: _ :: _ :: _ :: _ => some (word16 s1 s0)
  | _ => none

def ssrc? : Bytes → Option UInt32
  | _ :: _ :: _ :: _ :: _ :: _ :: _ :: _ :: x3 :: x2 :: x1 :: x0 :: _ => some (word32 x3 x2 x1 x0)
  | _ => none

structure Header where
  csrcCount : Nat
  extended : Bool
  seq : UInt16
  ssrc : UInt32
  length : Nat
  deriving DecidableEq, Repr

def extensionStart (csrcCount : Nat) : Nat := fixedLength + 4 * csrcCount

def extensionWords? (packet : Bytes) (start : Nat) : Option Nat :=
  match packet.drop start with
  | _ :: _ :: w1 :: w0 :: _ => some (word16 w1 w0).toNat
  | _ => none

def announcedLength? (packet : Bytes) (csrcCount : Nat) (extended : Bool) : Option Nat :=
  let start := extensionStart csrcCount
  if extended then (extensionWords? packet start).map fun words => start + 4 + 4 * words else some start

def Header.read? (packet : Bytes) : Option Header :=
  match packet with
  | b :: _ :: s1 :: s0 :: _ :: _ :: _ :: _ :: x3 :: x2 :: x1 :: x0 :: _ =>
    let csrcCount := (b &&& 0x0f).toNat
    let extended := b &&& 0x10 != 0
    if b >>> 6 = 2 then
      match announcedLength? packet csrcCount extended with
      | some length =>
        if length ≤ packet.length then some ⟨csrcCount, extended, word16 s1 s0, word32 x3 x2 x1 x0, length⟩
        else none
      | none => none
    else none
  | _ => none

def headerLength? (packet : Bytes) : Option Nat := (Header.read? packet).map (·.length)

end Rtp

namespace Rtcp

def headerLength : Nat := 8

def packetType? : Bytes → Option UInt8
  | _ :: t :: _ :: _ :: _ => some t
  | _ => none

def ssrc? : Bytes → Option UInt32
  | _ :: _ :: _ :: _ :: x3 :: x2 :: x1 :: x0 :: _ => some (word32 x3 x2 x1 x0)
  | _ => none

def isRtcp : Bytes → Bool
  | _ :: t :: _ => 192 ≤ t && t ≤ 223
  | _ => false

end Rtcp

end SecureRtp
