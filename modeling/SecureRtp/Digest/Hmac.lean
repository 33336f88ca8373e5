import SecureRtp.Digest.Sha1

namespace SecureRtp.Hmac

def keyGroup (key : Bytes) : Bytes :=
  (if key.length > 64 then Sha1.digest key else key).rightpad 64 0

def digest (key message : Bytes) : Bytes :=
  let group := keyGroup key
  Sha1.digest (group.map (· ^^^ 0x5c) ++ Sha1.digest (group.map (· ^^^ 0x36) ++ message))

@[simp] theorem length_digest (key message : Bytes) : (digest key message).length = 20 := Sha1.length_digest _

end SecureRtp.Hmac
