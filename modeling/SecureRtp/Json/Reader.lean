/-!
A strict reader of JSON. Numbers stay as they are written, and entries of an object in their order, repeated
names included.
-/
namespace SecureRtp.Json

/-- A string has no text if its escapes leave half of a surrogate pair. -/
inductive Value where
  | null
  | bool (b : Bool)
  | number (written : List Char)
  | string (text : Option String)
  | array (items : List Value)
  | object (entries : List (Option String × Value))
  deriving Repr

inductive Piece where
  | char (c : Char)
  | code (n : Nat)
  deriving DecidableEq, Repr

def isBlank (c : Char) : Bool := c = ' ' || c = '\t' || c = '\n' || c = '\r'

def skipBlanks (cs : List Char) : List Char := cs.dropWhile isBlank

def isDigit (c : Char) : Bool := '0' ≤ c && c ≤ '9'

def digitValue? (c : Char) : Option Nat :=
  if '0' ≤ c ∧ c ≤ '9' then some (c.toNat - 48)
  else if 'a' ≤ c ∧ c ≤ 'f' then some (c.toNat - 87)
  else if 'A' ≤ c ∧ c ≤ 'F' then some (c.toNat - 55)
  else none

def fourDigits? (a b c d : Char) : Option Nat := do
  return 4096 * (← digitValue? a) + 256 * (← digitValue? b) + 16 * (← digitValue? c) + (← digitValue? d)

def escaped? : Char → Option Char
  | '"' => some '"'
  | '\\' => some '\\'
  | '/' => some '/'
  | 'b' => some '\x08'
  | 'f' => some '\x0c'
  | 'n' => some '\n'
  | 'r' => some '\r'
  | 't' => some '\t'
  | _ => none

def literal : List Char → Option (List Piece × List Char)
  | [] => none
  | '"' :: rest => some ([], rest)
  | '\\' :: 'u' :: a :: b :: c :: d :: rest => do
    let n ← fourDigits? a b c d
    let (pieces, rest) ← literal rest
    return (.code n :: pieces, rest)
  | '\\' :: c :: rest => do
    let c ← escaped? c
    let (pieces, rest) ← literal rest
    return (.char c :: pieces, rest)
  | c :: rest =>
    if c.toNat < 0x20 then none
    else do
      let (pieces, rest) ← literal rest
      return (.char c :: pieces, rest)

def isHigh (n : Nat) : Bool := 0xd800 ≤ n && n < 0xdc00

def isLow (n : Nat) : Bool := 0xdc00 ≤ n && n < 0xe000

def textOf? : List Piece → Option (List Char)
  | [] => some []
  | .char c :: rest => (textOf? rest).map (c :: ·)
  | .code n :: .code m :: rest =>
    if isHigh n then
      if isLow m then
        (textOf? rest).map (Char.ofNat (0x10000 + 0x400 * (n - 0xd800) + (m - 0xdc00)) :: ·)
      else none
    else if isLow n then none
    else (textOf? (.code m :: rest)).map (Char.ofNat n :: ·)
  | .code n :: rest => if isHigh n || isLow n then none else (textOf? rest).map (Char.ofNat n :: ·)

def stringLiteral (cs : List Char) : Option (Option String × List Char) :=
  (literal cs).map fun (pieces, rest) => ((textOf? pieces).map String.ofList, rest)

def digits (cs : List Char) : Option (List Char × List Char) :=
  match cs.span isDigit with
  | ([], _) => none
  | found => some found

def integer : List Char → Option (List Char × List Char)
  | '0' :: rest => some (['0'], rest)
  | cs => digits cs

def fraction (cs : List Char) : List Char × List Char :=
  match cs with
  | '.' :: rest =>
    match digits rest with
    | some (found, rest) => ('.' :: found, rest)
    | none => ([], cs)
  | _ => ([], cs)

def sign : List Char → List Char × List Char
  | '+' :: rest => (['+'], rest)
  | '-' :: rest => (['-'], rest)
  | cs => ([], cs)

def exponent (cs : List Char) : List Char × List Char :=
  match cs with
  | e :: rest =>
    if e = 'e' || e = 'E' then
      let (sign, rest) := sign rest
      match digits rest with
      | some (found, rest) => (e :: sign ++ found, rest)
      | none => ([], cs)
    else ([], cs)
  | [] => ([], cs)

def number (cs : List Char) : Option (Value × List Char) := do
  let (minus, rest) := match cs with
    | '-' :: rest => (['-'], rest)
    | _ => ([], cs)
  let (whole, rest) ← integer rest
  let (part, rest) := fraction rest
  let (power, rest) := exponent rest
  return (.number (minus ++ whole ++ part ++ power), rest)

mutual

def value : Nat → List Char → Option (Value × List Char)
  | 0, _ => none
  | fuel + 1, cs =>
    match skipBlanks cs with
    | 'n' :: 'u' :: 'l' :: 'l' :: rest => some (.null, rest)
    | 't' :: 'r' :: 'u' :: 'e' :: rest => some (.bool true, rest)
    | 'f' :: 'a' :: 'l' :: 's' :: 'e' :: rest => some (.bool false, rest)
    | '"' :: rest => (stringLiteral rest).map fun (text, rest) => (.string text, rest)
    | '[' :: rest =>
      match skipBlanks rest with
      | ']' :: rest => some (.array [], rest)
      | rest => (items fuel rest).map fun (vs, rest) => (.array vs, rest)
    | '\x7b' :: rest =>
      match skipBlanks rest with
      | '\x7d' :: rest => some (.object [], rest)
      | rest => (entries fuel rest).map fun (es, rest) => (.object es, rest)
    | cs => number cs

def items : Nat → List Char → Option (List Value × List Char)
  | 0, _ => none
  | fuel + 1, cs => do
    let (v, rest) ← value fuel cs
    match skipBlanks rest with
    | ',' :: rest => (items fuel rest).map fun (vs, rest) => (v :: vs, rest)
    | ']' :: rest => some ([v], rest)
    | _ => none

def entries : Nat → List Char → Option (List (Option String × Value) × List Char)
  | 0, _ => none
  | fuel + 1, cs =>
    match skipBlanks cs with
    | '"' :: rest => do
      let (name, rest) ← stringLiteral rest
      match skipBlanks rest with
      | ':' :: rest => do
        let (v, rest) ← value fuel rest
        match skipBlanks rest with
        | ',' :: rest => (entries fuel rest).map fun (es, rest) => ((name, v) :: es, rest)
        | '\x7d' :: rest => some ([(name, v)], rest)
        | _ => none
      | _ => none
    | _ => none

end

def read? (text : String) : Option Value :=
  let cs := text.toList
  match value (2 * cs.length + 2) cs with
  | some (v, rest) => if (skipBlanks rest).isEmpty then some v else none
  | none => none

def Value.nat? : Value → Option Nat
  | .number written =>
    if written.all isDigit then some (written.foldl (fun n c => 10 * n + (c.toNat - 48)) 0) else none
  | _ => none

end SecureRtp.Json
