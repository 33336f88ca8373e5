namespace SecureRtp.Text

/-- No range is empty, and between two neighbours lies a code that is in neither. -/
def separated : List (Nat × Nat) → Bool
  | [] => true
  | [r] => r.1 ≤ r.2
  | r :: s :: rest => r.1 ≤ r.2 && r.2 + 1 < s.1 && separated (s :: rest)

structure CharClass where
  ranges : List (Nat × Nat)
  apart : separated ranges = true

def inRanges : List (Nat × Nat) → Nat → Bool
  | [], _ => false
  | r :: rest, code => r.1 ≤ code && (code ≤ r.2 || inRanges rest code)

def CharClass.contains (k : CharClass) (c : Char) : Bool := inRanges k.ranges c.toNat

end SecureRtp.Text
