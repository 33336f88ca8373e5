import SecureRtp.Json.Reader
import SecureRtp.Suite

namespace SecureRtp

def Suite.ofJson? : Json.Value → Option Suite
  | .string (some label) => ofLabel? label
  | .object [(some label, .null)] => ofLabel? label
  | _ => none

def Suite.parse? (text : String) : Option Suite := (Json.read? text).bind ofJson?

end SecureRtp
