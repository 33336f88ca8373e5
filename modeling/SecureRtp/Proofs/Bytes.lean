import SecureRtp.Bytes

namespace SecureRtp

variable {a b c new : Bytes} {start stop : Nat}

theorem xorBytes_xorBytes (h : a.length ≤ b.length) : xorBytes (xorBytes a b) b = a := by
  induction a generalizing b with
  | nil => rfl
  | cons x a ih =>
    cases b with
    | nil => simp at h
    | cons y b =>
      have hab := ih (b := b) (by simpa using h)
      simp only [xorBytes, List.zipWith_cons_cons] at hab ⊢
      rw [hab, UInt8.xor_assoc, UInt8.xor_self, UInt8.xor_zero]

theorem xorBytes_zeros {n : Nat} (h : a.length = n) : xorBytes (zeros n) a = a := by
  subst h
  induction a with
  | nil => rfl
  | cons x a ih =>
    change (0 ^^^ x) :: xorBytes (zeros a.length) a = x :: a
    rw [ih, UInt8.zero_xor]

theorem slice_mid (hs : start = a.length) (he : stop = a.length + b.length) :
    slice (a ++ (b ++ c)) start stop = b := by
  subst hs he
  rw [slice, ← List.append_assoc, ← List.length_append, List.take_left, List.drop_left]

theorem length_slice_of_le (h : stop ≤ a.length) : (slice a start stop).length = stop - start := by
  rw [slice, List.length_drop, List.length_take, Nat.min_eq_left h]

theorem overwrite_mid (hs : start = a.length) (hn : new.length = b.length) :
    overwrite (a ++ (b ++ c)) start new = a ++ (new ++ c) := by
  subst hs
  have hd : (a ++ (b ++ c)).drop (a.length + new.length) = c := by
    rw [hn, ← List.append_assoc, ← List.length_append, List.drop_left]
  rw [overwrite, List.take_left, hd, List.append_assoc]

theorem overwrite_append (hs : start = a.length) :
    overwrite (a ++ b) start new = a ++ (new ++ b.drop new.length) := by
  subst hs
  rw [overwrite, List.take_left, ← List.drop_drop, List.drop_left, List.append_assoc]

theorem overwrite_append_left (h : start + new.length ≤ a.length) (b : Bytes) :
    overwrite (a ++ b) start new = overwrite a start new ++ b := by
  rw [overwrite, List.take_append_of_le_length (by omega), List.drop_append_of_le_length h, ← List.append_assoc,
    overwrite]

theorem overwrite_overwrite_append {x y : Bytes} (hs : start = a.length) :
    overwrite (overwrite (a ++ b) start x) (start + x.length) y =
      a ++ (x ++ (y ++ b.drop (x.length + y.length))) := by
  rw [overwrite_append hs, ← List.append_assoc, overwrite_append (by simp [hs]), List.drop_drop, List.append_assoc]

theorem overwrite_front (hn : new.length = a.length) : overwrite (a ++ b) 0 new = new ++ b :=
  overwrite_mid (a := []) rfl hn

theorem getElem?_slice (a : Bytes) (start stop i : Nat) :
    (slice a start stop)[i]? = if start + i < stop then a[start + i]? else none := by
  rw [slice, List.getElem?_drop, List.getElem?_take]

theorem getElem?_overwrite (h : start + new.length ≤ a.length) (i : Nat) :
    (overwrite a start new)[i]? =
      if start ≤ i ∧ i < start + new.length then new[i - start]? else a[i]? := by
  have ht : (a.take start).length = start := by simp; omega
  rw [overwrite, List.append_assoc, List.getElem?_append, ht, List.getElem?_take]
  by_cases hi : i < start
  · rw [if_pos hi, if_pos hi, if_neg (by omega)]
  · rw [if_neg hi, List.getElem?_append, List.getElem?_drop]
    by_cases hi' : i < start + new.length
    · rw [if_pos (by omega), if_pos (by omega)]
    · rw [if_neg (by omega), if_neg (by omega)]
      congr 1
      omega

theorem overwrite_eq_self_iff (h : start + new.length ≤ a.length) :
    overwrite a start new = a ↔ slice a start (start + new.length) = new := by
  constructor
  · intro ho
    have hstart : start = (a.take start).length := by simp; omega
    rw [← ho, overwrite, List.append_assoc]
    exact slice_mid hstart (by omega)
  · intro hs
    have htake : a.take start = (a.take (start + new.length)).take start := by
      rw [List.take_take, Nat.min_eq_left (Nat.le_add_right _ _)]
    rw [slice] at hs
    rw [overwrite, htake]
    conv => lhs; lhs; rhs; rw [← hs]
    rw [List.take_append_drop, List.take_append_drop]

theorem getElem?_xorBytes (a b : Bytes) (i : Nat) :
    (xorBytes a b)[i]? = a[i]?.bind fun x => b[i]?.map fun y => x ^^^ y := by
  rw [xorBytes, List.getElem?_zipWith]
  cases a[i]? <;> cases b[i]? <;> rfl

theorem beBytes_ofNat_beNat (h : a.length = 4) : beBytes 4 (UInt32.ofNat (beNat a)).toNat = a := by
  obtain ⟨w, x, y, z, rfl⟩ : ∃ w x y z, a = [w, x, y, z] := by
    match a, h with
    | [w, x, y, z], _ => exact ⟨w, x, y, z, rfl⟩
  have hw := w.toNat_lt
  have hx := x.toNat_lt
  have hy := y.toNat_lt
  have hz := z.toNat_lt
  have hn : (UInt32.ofNat (beNat [w, x, y, z])).toNat =
      256 * (256 * (256 * w.toNat + x.toNat) + y.toNat) + z.toNat := by
    simp only [beNat, List.foldl_cons, List.foldl_nil, UInt32.toNat_ofNat']
    omega
  simp only [hn, beBytes, List.nil_append, List.cons_append, List.cons.injEq, and_true,
    ← UInt8.toNat_inj, UInt8.toNat_ofNat']
  omega

theorem ofNat_beNat_beBytes (word : UInt32) : UInt32.ofNat (beNat (beBytes 4 word.toNat)) = word := by
  have hw := word.toNat_lt
  apply UInt32.toNat_inj.mp
  simp only [beBytes, beNat, List.nil_append, List.cons_append, List.foldl_cons, List.foldl_nil,
    UInt32.toNat_ofNat', UInt8.toNat_ofNat']
  omega

end SecureRtp
