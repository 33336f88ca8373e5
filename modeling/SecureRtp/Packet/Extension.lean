import SecureRtp.Packet.Header

namespace SecureRtp.Rtp

structure Element where
  id : UInt8
  start : Nat
  stop : Nat
  deriving DecidableEq, Repr

def oneByteProfile : UInt16 := 0xbede

def twoByteProfile : UInt16 := 0x1000

def holds (bytes : Bytes) (length : Nat) : Bool := (bytes.take length).length = length

/-- Elements with ids 1 to 14 and 1 to 16 bytes. Byte 0 is padding and id 15 ends the block. The first `skip`
bytes belong to the element before. -/
def oneByteElements (skip position : Nat) : Bytes → List Element
  | [] => []
  | b :: rest =>
    match skip with
    | skip + 1 => oneByteElements skip (position + 1) rest
    | 0 =>
      let id := b >>> 4
      let length := (b &&& 0x0f).toNat + 1
      if id = 0 then oneByteElements 0 (position + 1) rest
      else if id = 15 then []
      else if holds rest length then
        ⟨id, position + 1, position + 1 + length⟩ :: oneByteElements length (position + 1) rest
      else []

def twoByteElements (skip position : Nat) : Bytes → List Element
  | [] => []
  | id :: rest =>
    match skip with
    | skip + 1 => twoByteElements skip (position + 1) rest
    | 0 =>
      if id = 0 then twoByteElements 0 (position + 1) rest
      else
        match rest with
        | [] => []
        | size :: data =>
          if holds data size.toNat then
            ⟨id, position + 2, position + 2 + size.toNat⟩ :: twoByteElements (size.toNat + 1) (position + 1) rest
          else []

def blockElements (position : Nat) : Bytes → List Element
  | p1 :: p0 :: _ :: _ :: body =>
    let profile := word16 p1 p0
    if profile = oneByteProfile then oneByteElements 0 (position + 4) body
    else if profile &&& 0xfff0 = twoByteProfile then twoByteElements 0 (position + 4) body
    else []
  | _ => []

def elements (packet : Bytes) : List Element :=
  match Header.read? packet with
  | some header =>
    let start := extensionStart header.csrcCount
    if header.extended then blockElements start (slice packet start header.length) else []
  | none => []

def findElement? (packet : Bytes) (id : UInt8) : Option Element := (elements packet).find? (·.id = id)

end SecureRtp.Rtp
