import SecureRtp.Error
import SecureRtp.Bytes
import SecureRtp.Text.Record
/-!
A packet with spare bytes behind it. Together they are the storage, whose length never changes.
-/
namespace SecureRtp

structure PacketBuffer where
  packet : Bytes
  spare : Bytes
  deriving DecidableEq, Repr

namespace PacketBuffer

def withCapacity (capacity : Nat) : PacketBuffer := ⟨[], zeros capacity⟩

def withHeadroom (data : Bytes) (headroom : Nat) : PacketBuffer := ⟨data, zeros headroom⟩

def ofBytes (data : Bytes) : PacketBuffer := ⟨data, []⟩

def length (b : PacketBuffer) : Nat := b.packet.length

def headroom (b : PacketBuffer) : Nat := b.spare.length

def capacity (b : PacketBuffer) : Nat := b.length + b.headroom

def isEmpty (b : PacketBuffer) : Bool := b.packet.isEmpty

def storage (b : PacketBuffer) : Bytes := b.packet ++ b.spare

def withStorage (b : PacketBuffer) (storage : Bytes) : PacketBuffer :=
  ⟨storage.take b.length, storage.drop b.length⟩

def setLength (b : PacketBuffer) (length : Nat) : Except Error PacketBuffer :=
  if length > b.capacity then .error (.bufferTooSmall length b.capacity)
  else .ok ⟨b.storage.take length, b.storage.drop length⟩

def append (b : PacketBuffer) (data : Bytes) : Except Error PacketBuffer :=
  if b.length + data.length > b.capacity then .error (.bufferTooSmall (b.length + data.length) b.capacity)
  else .ok ⟨b.packet ++ data, b.spare.drop data.length⟩

def fillFrom (bytes : Bytes) (start : Nat) (value : UInt8) : Bytes :=
  bytes.take start ++ List.replicate (bytes.length - start) value

def fillPacket (b : PacketBuffer) (start : Nat) (value : UInt8) : PacketBuffer :=
  { b with packet := fillFrom b.packet start value }

def fillStorage (b : PacketBuffer) (start : Nat) (value : UInt8) : PacketBuffer :=
  b.withStorage (fillFrom b.storage start value)

def describe (b : PacketBuffer) : String :=
  Text.record "PacketBuffer" [("len", Text.number b.length), ("capacity", Text.number b.capacity)]

@[simp] theorem length_storage (b : PacketBuffer) : b.storage.length = b.capacity := by
  simp [storage, capacity, length, headroom]

theorem withStorage_storage (b : PacketBuffer) : b.withStorage b.storage = b := by
  simp [withStorage, storage, length]

end PacketBuffer

end SecureRtp
