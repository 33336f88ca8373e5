import SecureRtp.Packet.Extension
import SecureRtp.Proofs.Bytes
import SecureRtp.Proofs.Packet.Header

namespace SecureRtp.Rtp

def Element.Contains (e : Element) (i : Nat) : Prop := e.start ≤ i ∧ i < e.stop

instance (e : Element) (i : Nat) : Decidable (e.Contains i) := inferInstanceAs (Decidable (_ ∧ _))

structure InOrder (start stop : Nat) (es : List Element) : Prop where
  separate : es.Pairwise fun d e => d.stop ≤ e.start
  within : ∀ e ∈ es, start ≤ e.start ∧ e.start ≤ e.stop ∧ e.stop ≤ stop

theorem InOrder.nil (start stop : Nat) : InOrder start stop [] := ⟨.nil, nofun⟩

theorem InOrder.mono {start start' stop stop' : Nat} {es : List Element} (h : InOrder start stop es)
    (hs : start' ≤ start) (he : stop ≤ stop') : InOrder start' stop' es := by
  constructor
  · exact h.separate
  · intro e hm
    have := h.within e hm
    omega

theorem InOrder.cons {start stop : Nat} {e : Element} {es : List Element} (h : InOrder e.stop stop es)
    (hs : start ≤ e.start) (he : e.start ≤ e.stop) (hl : e.stop ≤ stop) : InOrder start stop (e :: es) := by
  constructor
  · exact List.pairwise_cons.mpr ⟨fun d hd => (h.within d hd).1, h.separate⟩
  · refine List.forall_mem_cons.mpr ⟨⟨hs, he, hl⟩, ?_⟩
    intro d hd
    have := h.within d hd
    omega

theorem InOrder.filter {start stop : Nat} {es : List Element} (h : InOrder start stop es)
    (p : Element → Bool) : InOrder start stop (es.filter p) :=
  ⟨h.separate.filter p, fun e he => h.within e (List.mem_filter.mp he).1⟩

theorem InOrder.not_contains {start stop i : Nat} {es : List Element} (h : InOrder start stop es)
    (hi : i < start) : ∀ e ∈ es, ¬e.Contains i := by
  intro e he hc
  have := (h.within e he).1
  have := hc.1
  omega

theorem InOrder.eq_of_contains {start stop i : Nat} {es : List Element} (ho : InOrder start stop es) {d e : Element}
    (hd : d ∈ es) (he : e ∈ es) (hdi : d.Contains i) (hei : e.Contains i) : d = e := by
  obtain ⟨d1, d2⟩ := hdi
  obtain ⟨e1, e2⟩ := hei
  obtain ⟨hs, -⟩ := ho
  induction es with
  | nil => cases hd
  | cons f es ih =>
    obtain ⟨hf, hrest⟩ := List.pairwise_cons.mp hs
    rcases List.mem_cons.mp hd with rfl | hd' <;> rcases List.mem_cons.mp he with rfl | he'
    · rfl
    · have := hf e he'
      omega
    · have := hf d hd'
      omega
    · exact ih hd' he' hrest

theorem holds_iff (bytes : Bytes) (length : Nat) : holds bytes length = true ↔ length ≤ bytes.length := by
  simp only [holds, List.length_take, decide_eq_true_eq]
  omega

theorem holds_congr {xs ys : Bytes} (hl : xs.length = ys.length) (length : Nat) :
    holds xs length = holds ys length := by
  simp only [holds, List.length_take, hl]

theorem inOrder_oneByteElements (skip position : Nat) (bytes : Bytes) :
    InOrder (position + skip + 1) (position + bytes.length) (oneByteElements skip position bytes) := by
  induction bytes generalizing skip position with
  | nil => exact .nil _ _
  | cons b rest ih =>
    rw [List.length_cons]
    cases skip with
    | succ skip => exact (ih skip (position + 1)).mono (by omega) (by omega)
    | zero =>
      simp only [oneByteElements]
      split
      · exact (ih 0 (position + 1)).mono (by omega) (by omega)
      · split
        · exact .nil _ _
        · split
          · rename_i hh
            have hl := (holds_iff _ _).mp hh
            exact .cons ((ih _ (position + 1)).mono (by dsimp only; omega) (by omega)) (by dsimp only; omega)
              (by dsimp only; omega) (by dsimp only; omega)
          · exact .nil _ _

theorem inOrder_twoByteElements (skip position : Nat) (bytes : Bytes) :
    InOrder (position + skip + 1) (position + bytes.length) (twoByteElements skip position bytes) := by
  induction bytes generalizing skip position with
  | nil => exact .nil _ _
  | cons id rest ih =>
    rw [List.length_cons]
    cases skip with
    | succ skip => exact (ih skip (position + 1)).mono (by omega) (by omega)
    | zero =>
      simp only [twoByteElements]
      split
      · exact (ih 0 (position + 1)).mono (by omega) (by omega)
      · cases rest with
        | nil => exact .nil _ _
        | cons size data =>
          dsimp only
          split
          · rename_i hh
            have hl := (holds_iff _ _).mp hh
            rw [List.length_cons] at ih ⊢
            exact .cons ((ih _ (position + 1)).mono (by dsimp only; omega) (by omega)) (by dsimp only; omega)
              (by dsimp only; omega) (by dsimp only; omega)
          · exact .nil _ _

theorem inOrder_blockElements (position : Nat) (bytes : Bytes) :
    InOrder (position + 4) (position + bytes.length) (blockElements position bytes) := by
  match bytes with
  | [] | [_] | [_, _] | [_, _, _] => exact .nil _ _
  | p1 :: p0 :: w1 :: w0 :: body =>
    simp only [blockElements, List.length_cons]
    split
    · exact (inOrder_oneByteElements 0 _ body).mono (by omega) (by omega)
    · split
      · exact (inOrder_twoByteElements 0 _ body).mono (by omega) (by omega)
      · exact .nil _ _

/-- From position `skip` on, `xs` and `ys` differ at most in the data of the elements, whose positions count from
`position`. -/
structure SameOutside (es : List Element) (skip position : Nat) (xs ys : Bytes) : Prop where
  length_eq : xs.length = ys.length
  same : ∀ i, skip ≤ i → (∀ e ∈ es, ¬e.Contains (position + i)) → xs[i]? = ys[i]?

theorem SameOutside.head_eq {es : List Element} {position : Nat} {x y : UInt8} {xs ys : Bytes}
    (h : SameOutside es 0 position (x :: xs) (y :: ys)) (hs : ∀ e ∈ es, ¬e.Contains position) : x = y := by
  have := h.same 0 (Nat.le_refl 0) hs
  simpa using this

theorem SameOutside.tail {es : List Element} {skip position : Nat} {x y : UInt8} {xs ys : Bytes}
    (h : SameOutside es skip position (x :: xs) (y :: ys)) {skip' : Nat} (hs : skip ≤ skip' + 1) :
    SameOutside es skip' (position + 1) xs ys := by
  constructor
  · simpa using h.length_eq
  · intro i hi he
    have := h.same (i + 1) (by omega) (by simpa only [Nat.add_assoc, Nat.add_comm 1 i] using he)
    simpa using this

theorem SameOutside.of_cons {e : Element} {es : List Element} {skip position : Nat} {xs ys : Bytes}
    (h : SameOutside (e :: es) skip position xs ys) (he : e.stop ≤ position + skip) :
    SameOutside es skip position xs ys := by
  constructor
  · exact h.length_eq
  · intro i hi hs
    apply h.same i hi (List.forall_mem_cons.mpr ⟨_, hs⟩)
    intro hc
    have := hc.2
    omega

theorem oneByteElements_congr {skip position : Nat} {xs ys : Bytes}
    (h : SameOutside (oneByteElements skip position xs) skip position xs ys) :
    oneByteElements skip position ys = oneByteElements skip position xs := by
  induction xs generalizing skip position ys with
  | nil => rw [List.eq_nil_of_length_eq_zero h.length_eq.symm]
  | cons b rest ih =>
    obtain ⟨c, rest', rfl⟩ := List.exists_cons_of_length_eq_add_one h.length_eq.symm
    have hl : rest.length = rest'.length := by simpa using h.length_eq
    cases skip with
    | succ skip => exact ih (h.tail (Nat.le_refl _))
    | zero =>
      obtain rfl : b = c :=
        h.head_eq ((inOrder_oneByteElements 0 position (b :: rest)).not_contains (by omega))
      by_cases hpad : b >>> 4 = 0
      · simp only [oneByteElements, hpad, if_true] at h ⊢
        exact ih (h.tail (by omega))
      by_cases hend : b >>> 4 = 15
      · simp only [oneByteElements, hpad, if_false, if_pos hend]
      simp only [oneByteElements, hpad, hend, if_false, ← holds_congr hl] at h ⊢
      split at h
      · rename_i hh
        rw [if_pos hh, if_pos hh]
        congr 1
        -- The data of this element is what the scan skips.
        exact ih ((h.tail (by omega)).of_cons (by simp))
      · rename_i hh
        rw [if_neg hh, if_neg hh]

theorem twoByteElements_congr {skip position : Nat} {xs ys : Bytes}
    (h : SameOutside (twoByteElements skip position xs) skip position xs ys) :
    twoByteElements skip position ys = twoByteElements skip position xs := by
  induction xs generalizing skip position ys with
  | nil => rw [List.eq_nil_of_length_eq_zero h.length_eq.symm]
  | cons b rest ih =>
    obtain ⟨c, rest', rfl⟩ := List.exists_cons_of_length_eq_add_one h.length_eq.symm
    have hl : rest.length = rest'.length := by simpa using h.length_eq
    cases skip with
    | succ skip => exact ih (h.tail (Nat.le_refl _))
    | zero =>
      obtain rfl : b = c :=
        h.head_eq ((inOrder_twoByteElements 0 position (b :: rest)).not_contains (by omega))
      by_cases hpad : b = 0
      · simp only [twoByteElements, hpad, if_true] at h ⊢
        exact ih (h.tail (by omega))
      cases rest with
      | nil => rw [List.eq_nil_of_length_eq_zero hl.symm]
      | cons size data =>
        obtain ⟨size', data', rfl⟩ := List.exists_cons_of_length_eq_add_one hl.symm
        have hld : data.length = data'.length := by simpa using hl
        simp only [twoByteElements, hpad, if_false] at h ⊢
        split at h
        · rename_i hh
          obtain rfl : size = size' := by
            apply (h.tail (Nat.zero_le _)).head_eq
            refine List.forall_mem_cons.mpr ⟨?_, ?_⟩
            · intro hc
              have := hc.1
              simp only at this
              omega
            · exact (inOrder_twoByteElements (size.toNat + 1) (position + 1) (size :: data)).not_contains (by omega)
          rw [← holds_congr hld, if_pos hh, if_pos hh]
          congr 1
          have hs : position + 2 + size.toNat ≤ position + 1 + (size.toNat + 1) := by omega
          have hrest : SameOutside (twoByteElements (size.toNat + 1) (position + 1) (size :: data))
              (size.toNat + 1) (position + 1) (size :: data) (size :: data') := (h.tail (by omega)).of_cons hs
          exact ih hrest
        · rename_i hh
          obtain rfl : size = size' := (h.tail (Nat.zero_le _)).head_eq nofun
          rw [← holds_congr hld, if_neg hh, if_neg hh]

theorem blockElements_congr {position : Nat} {xs ys : Bytes}
    (h : SameOutside (blockElements position xs) 0 position xs ys) :
    blockElements position ys = blockElements position xs := by
  have hout (i : Nat) (hi : i < 4) : xs[i]? = ys[i]? :=
    h.same i (Nat.zero_le _) ((inOrder_blockElements position xs).not_contains (by omega))
  match xs, ys, h.length_eq with
  | [], [], _ | [_], [_], _ | [_, _], [_, _], _ | [_, _, _], [_, _, _], _ => rfl
  | p1 :: p0 :: w1 :: w0 :: body, q1 :: q0 :: v1 :: v0 :: body', _ =>
    obtain rfl : p1 = q1 := by simpa using hout 0 (by omega)
    obtain rfl : p0 = q0 := by simpa using hout 1 (by omega)
    have htail {es : List Element} (h : SameOutside es 0 position (p1 :: p0 :: w1 :: w0 :: body)
        (p1 :: p0 :: v1 :: v0 :: body')) : SameOutside es 0 (position + 4) body body' :=
      (((h.tail (Nat.zero_le _)).tail (Nat.zero_le _)).tail (Nat.zero_le _)).tail (Nat.zero_le _)
    simp only [blockElements] at h ⊢
    split
    · rename_i hp
      rw [if_pos hp] at h
      exact oneByteElements_congr (htail h)
    · rename_i hp
      rw [if_neg hp] at h
      split
      · rename_i hp'
        rw [if_pos hp'] at h
        exact twoByteElements_congr (htail h)
      · rfl

variable {packet xs ys : Bytes} {h : Header}

theorem elements_eq (hr : Header.read? packet = some h) :
    elements packet = if h.extended then
      blockElements (extensionStart h.csrcCount) (slice packet (extensionStart h.csrcCount) h.length) else [] := by
  simp only [elements, hr]

theorem elements_append (hr : Header.read? packet = some h) (b : Bytes) :
    elements (packet ++ b) = elements packet := by
  rw [elements_eq (Header.read?_append hr b), elements_eq hr, slice, slice,
    List.take_append_of_le_length (Header.length_le hr)]

theorem inOrder_elements (hr : Header.read? packet = some h) : InOrder h.fixedEnd h.length (elements packet) := by
  have hl := Header.length_le hr
  have hf := Header.fixedEnd_le_length hr
  rw [elements_eq hr]
  split
  · rename_i he
    simp only [Header.fixedEnd, he, if_true] at hf ⊢
    apply (inOrder_blockElements _ _).mono (Nat.le_refl _)
    simp only [slice, List.length_drop, List.length_take]
    omega
  · exact .nil _ _

theorem SameOutside.slice {es : List Element} (hs : SameOutside es 0 0 xs ys) (start stop : Nat) :
    SameOutside es 0 start (slice xs start stop) (SecureRtp.slice ys start stop) := by
  constructor
  · simp only [SecureRtp.slice, List.length_drop, List.length_take, hs.length_eq]
  · intro i _ he
    rw [getElem?_slice, getElem?_slice, hs.same (start + i) (Nat.zero_le _) (by simpa using he)]

theorem Header.read?_of_sameOutside (hr : read? xs = some h) (hs : SameOutside (elements xs) 0 0 xs ys) :
    read? ys = some h := by
  apply read?_of_take hr (Nat.le_refl _) _ (hs.length_eq ▸ length_le hr)
  apply List.ext_getElem?
  intro i
  rw [List.getElem?_take, List.getElem?_take]
  split
  · exact hs.same i (Nat.zero_le _) ((inOrder_elements hr).not_contains (by omega))
  · rfl

theorem elements_of_sameOutside (hr : Header.read? xs = some h) (hs : SameOutside (elements xs) 0 0 xs ys) :
    elements ys = elements xs := by
  rw [elements_eq (Header.read?_of_sameOutside hr hs), elements_eq hr]
  rw [elements_eq hr] at hs
  split
  · rename_i he
    rw [if_pos he] at hs
    exact blockElements_congr (hs.slice _ _)
  · rfl

end SecureRtp.Rtp
