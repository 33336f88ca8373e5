namespace SecureRtp

abbrev Bytes := List UInt8

def zeros (n : Nat) : Bytes := List.replicate n 0

def beNat (bytes : Bytes) : Nat := bytes.foldl (fun n b => 256 * n + b.toNat) 0

def beBytes : Nat → Nat → Bytes
  | 0, _ => []
  | n + 1, x => beBytes n (x / 256) ++ [UInt8.ofNat x]

def xorBytes (a b : Bytes) : Bytes := List.zipWith (· ^^^ ·) a b

def slice (bytes : Bytes) (start stop : Nat) : Bytes := (bytes.take stop).drop start

def overwrite (bytes : Bytes) (start : Nat) (new : Bytes) : Bytes :=
  bytes.take start ++ new ++ bytes.drop (start + new.length)

def groups (size : Nat) : Nat → Bytes → List Bytes
  | 0, _ => []
  | count + 1, bytes => bytes.take size :: groups size count (bytes.drop size)

def groupCount (size length : Nat) : Nat := (length + size - 1) / size

@[simp] theorem length_beBytes (n x : Nat) : (beBytes n x).length = n := by
  induction n generalizing x with
  | zero => rfl
  | succ n ih => simp [beBytes, ih]

@[simp] theorem length_zeros (n : Nat) : (zeros n).length = n := by simp [zeros]

@[simp] theorem length_xorBytes (a b : Bytes) : (xorBytes a b).length = min a.length b.length := by
  simp [xorBytes]

theorem length_overwrite {bytes new : Bytes} {start : Nat} (h : start + new.length ≤ bytes.length) :
    (overwrite bytes start new).length = bytes.length := by
  simp [overwrite]; omega

end SecureRtp
