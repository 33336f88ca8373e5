import SecureRtp.Bytes
import SecureRtp.Text.Combining
import SecureRtp.Text.Unprintable

namespace SecureRtp.Text

def hexDigit (n : Nat) : Char := if n < 10 then Char.ofNat (48 + n) else Char.ofNat (87 + n)

def hexDigits : Nat → Nat → List Char
  | 0, _ => []
  | n + 1, x => hexDigits n (x / 16) ++ [hexDigit (x % 16)]

def hexWord (x : UInt32) : String := String.ofList (hexDigits 8 x.toNat)

def record (name : String) (fields : List (String × String)) : String :=
  name ++ " \x7b " ++ ", ".intercalate (fields.map fun (field, value) => field ++ ": " ++ value) ++ " \x7d"

def optional (describe : α → String) : Option α → String
  | some a => "Some(" ++ describe a ++ ")"
  | none => "None"

def number (n : Nat) : String := toString n

def flag (b : Bool) : String := if b then "true" else "false"

def sequence (items : List String) : String := "[" ++ ", ".intercalate items ++ "]"

def hexCode (c : Char) : List Char :=
  (hexDigits 6 c.toNat).dropWhile (· = '0')

def hidden (c : Char) : Bool := unprintable.contains c || combining.contains c

def quotedChar (c : Char) : List Char :=
  if c = '"' then ['\\', '"']
  else if c = '\\' then ['\\', '\\']
  else if c = '\n' then ['\\', 'n']
  else if c = '\r' then ['\\', 'r']
  else if c = '\t' then ['\\', 't']
  else if c = '\x00' then ['\\', '0']
  else if hidden c then
    ['\\', 'u', '\x7b'] ++ hexCode c ++ ['\x7d']
  else [c]

def quoted (text : String) : String := String.ofList ('"' :: text.toList.flatMap quotedChar ++ ['"'])

def byteChar (b : UInt8) : List Char :=
  if b = 0x22 then ['\\', '"']
  else if b = 0x5c then ['\\', '\\']
  else if b = 0x0a then ['\\', 'n']
  else if b = 0x0d then ['\\', 'r']
  else if b = 0x09 then ['\\', 't']
  else if b = 0 then ['\\', '0']
  else if 0x20 ≤ b ∧ b < 0x7f then [Char.ofNat b.toNat]
  else ['\\', 'x'] ++ hexDigits 2 b.toNat

def byteString (bytes : Bytes) : String := String.ofList ('b' :: '"' :: bytes.flatMap byteChar ++ ['"'])

end SecureRtp.Text
