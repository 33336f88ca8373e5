import SecureRtp.Bytes
import SecureRtp.Error
/-!
Edits of a packet in place. What was written stays written when a later step fails.
-/
namespace SecureRtp

abbrev Edit := EStateM Error Bytes

namespace Edit

variable {α β : Type}

def replace (start : Nat) (new : Bytes) : Edit Unit := modify fun bytes => overwrite bytes start new

def lift : Except Error α → Edit α
  | .ok a => pure a
  | .error e => throw e

def apply (edit : Edit α) (bytes : Bytes) : Except Error α × Bytes :=
  match edit.run bytes with
  | .ok a bytes => (.ok a, bytes)
  | .error e bytes => (.error e, bytes)

@[simp] theorem apply_pure (a : α) (bytes : Bytes) : (pure a : Edit α).apply bytes = (.ok a, bytes) := rfl

@[simp] theorem apply_throw (e : Error) (bytes : Bytes) : (throw e : Edit α).apply bytes = (.error e, bytes) := rfl

@[simp] theorem apply_get (bytes : Bytes) : (get : Edit Bytes).apply bytes = (.ok bytes, bytes) := rfl

@[simp] theorem apply_bind (x : Edit α) (f : α → Edit β) (bytes : Bytes) :
    (x >>= f).apply bytes =
      match x.apply bytes with
      | (.ok a, bytes) => (f a).apply bytes
      | (.error e, bytes) => (.error e, bytes) := by
  simp only [apply, EStateM.run, bind, EStateM.bind]
  cases x bytes <;> rfl

@[simp] theorem apply_lift (r : Except Error α) (bytes : Bytes) : (lift r).apply bytes = (r, bytes) := by
  cases r <;> rfl

@[simp] theorem apply_replace (start : Nat) (new bytes : Bytes) :
    (replace start new).apply bytes = (.ok (), overwrite bytes start new) := rfl

end Edit

end SecureRtp
