import SecureRtp.Authenticator
import SecureRtp.Packet.Extension

namespace SecureRtp

structure TimeParams where
  extensionId : Option UInt8 := none
  authKey : Bytes := []
  tagLength : Nat := 0
  index : Option UInt64 := none
  deriving DecidableEq, Repr

def sendTimeCode (ms : UInt64) : UInt32 := (((ms <<< 18) / 1000) &&& 0xffffff).toUInt32

namespace TimeParams

def stamp (p : TimeParams) (ms : UInt64) (packet : Bytes) : Bytes :=
  match p.extensionId.bind (Rtp.findElement? packet) with
  | some element =>
    if element.stop - element.start = 3 then overwrite packet element.start (beBytes 3 (sendTimeCode ms).toNat)
    else packet
  | none => packet

def tag (p : TimeParams) (packet : Bytes) : Except Error Bytes :=
  if p.tagLength = 0 ∨ packet.length < Rtp.fixedLength + p.tagLength then
    .error (.invalidPacket (.noRoomForTag p.tagLength packet.length))
  else
    match p.index with
    | none => .error (.invalidPacket .missingIndex)
    | some index =>
      let roc := (index >>> 16).toUInt32
      let digest := Hmac.digest p.authKey (packet.take (packet.length - p.tagLength) ++ beBytes 4 roc.toNat)
      if p.tagLength > digest.length then .error (.invalidPacket (.tagLongerThanDigest p.tagLength))
      else .ok (digest.take p.tagLength)

/-- The outcome and the packet afterwards. The time stays written when there is no tag to write. -/
def apply (p : TimeParams) (ms : UInt64) (packet : Bytes) : Except Error Unit × Bytes :=
  let stamped := p.stamp ms packet
  if p.authKey.isEmpty then (.ok (), stamped)
  else
    match p.tag stamped with
    | .ok tag => (.ok (), overwrite stamped (stamped.length - p.tagLength) tag)
    | .error e => (.error e, stamped)

def describe (p : TimeParams) : String :=
  Text.record "PacketTimeUpdateParams"
    [("rtp_sendtime_extension_id", Text.optional (fun id => Text.number id.toNat) p.extensionId),
      ("srtp_auth_key_len", Text.number p.authKey.length), ("srtp_auth_tag_len", Text.number p.tagLength),
      ("srtp_packet_index", Text.optional (fun i => Text.number i.toNat) p.index)]

end TimeParams

end SecureRtp
