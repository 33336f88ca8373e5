import SecureRtp.Proofs.Packet.Elements
/-!
Reading a packet with every access checked. A position or a range outside of the bytes, or a difference below
zero, is a fault, and a read with a fault gives `none`. Headers and their elements are read position by position,
as a program does that holds the packet in memory.
-/
namespace SecureRtp

def difference? (a b : Nat) : Option Nat := if b ≤ a then some (a - b) else none

def slice? (bytes : Bytes) (start stop : Nat) : Option Bytes :=
  if start ≤ stop ∧ stop ≤ bytes.length then some (slice bytes start stop) else none

def overwrite? (bytes : Bytes) (start : Nat) (new : Bytes) : Option Bytes :=
  if start + new.length ≤ bytes.length then some (overwrite bytes start new) else none

def word16At? (bytes : Bytes) (i : Nat) : Option UInt16 := do
  return word16 (← bytes[i]?) (← bytes[i + 1]?)

def word32At? (bytes : Bytes) (i : Nat) : Option UInt32 := do
  return word32 (← bytes[i]?) (← bytes[i + 1]?) (← bytes[i + 2]?) (← bytes[i + 3]?)

variable {bytes new packet : Bytes} {start stop position : Nat}

theorem difference?_of_le {a b : Nat} (h : b ≤ a) : difference? a b = some (a - b) := if_pos h

theorem slice?_of_le (hs : start ≤ stop) (he : stop ≤ bytes.length) :
    slice? bytes start stop = some (slice bytes start stop) := if_pos ⟨hs, he⟩

theorem overwrite?_of_le (h : start + new.length ≤ bytes.length) :
    overwrite? bytes start new = some (overwrite bytes start new) := if_pos h

theorem slice_eq_nil (h : stop ≤ start) : slice bytes start stop = [] := by
  apply List.eq_nil_of_length_eq_zero
  simp only [slice, List.length_drop, List.length_take]
  omega

theorem slice_eq_cons (hp : position < stop) (hs : stop ≤ bytes.length) :
    ∃ b, bytes[position]? = some b ∧ slice bytes position stop = b :: slice bytes (position + 1) stop := by
  have hl : position < (bytes.take stop).length := by
    rw [List.length_take]
    omega
  refine ⟨(bytes.take stop)[position], ?_, List.drop_eq_getElem_cons hl⟩
  rw [List.getElem_take]
  exact List.getElem?_eq_getElem _

theorem drop_slice (n : Nat) : (slice bytes start stop).drop n = slice bytes (start + n) stop := by
  rw [slice, slice, List.drop_drop]

theorem toNat_shiftLeft_or (x : UInt8) {y : UInt32} {n : Nat} (hn : n ≤ 24) (hy : y.toNat < 1 <<< n) :
    (x.toUInt32 <<< UInt32.ofNat n ||| y).toNat = x.toNat <<< n + y.toNat := by
  have hx : x.toNat * 2 ^ n < 2 ^ 32 := by
    have := x.toNat_lt
    calc x.toNat * 2 ^ n ≤ x.toNat * 2 ^ 24 := Nat.mul_le_mul_left _ (Nat.pow_le_pow_right (by omega) hn)
      _ < 2 ^ 32 := by omega
  have hmod : n % 2 ^ 32 % 32 = n := by omega
  have hshift : (x.toUInt32 <<< UInt32.ofNat n).toNat = x.toNat <<< n := by
    rw [UInt32.toNat_shiftLeft, UInt8.toNat_toUInt32, UInt32.toNat_ofNat', hmod, Nat.shiftLeft_eq, Nat.mod_eq_of_lt hx]
  rw [Nat.one_shiftLeft] at hy
  rw [UInt32.toNat_or, hshift, Nat.shiftLeft_add_eq_or_of_lt hy]

theorem word32_eq (a b c d : UInt8) : word32 a b c d = UInt32.ofNat (beNat [a, b, c, d]) := by
  have ha := a.toNat_lt
  have hb := b.toNat_lt
  have hc := c.toNat_lt
  have hd := d.toNat_lt
  have h₂ : (c.toUInt32 <<< 8 ||| d.toUInt32).toNat = c.toNat <<< 8 + d.toNat :=
    toNat_shiftLeft_or c (n := 8) (by omega) (by rw [UInt8.toNat_toUInt32]; omega)
  have h₁ : (b.toUInt32 <<< 16 ||| (c.toUInt32 <<< 8 ||| d.toUInt32)).toNat = _ :=
    toNat_shiftLeft_or b (n := 16) (by omega) (by rw [h₂]; omega)
  have h₀ : (a.toUInt32 <<< 24 ||| (b.toUInt32 <<< 16 ||| (c.toUInt32 <<< 8 ||| d.toUInt32))).toNat = _ :=
    toNat_shiftLeft_or a (n := 24) (by omega) (by rw [h₁, h₂]; omega)
  apply UInt32.toNat_inj.mp
  rw [word32, UInt32.or_assoc, UInt32.or_assoc, h₀, h₁, h₂]
  simp only [beNat, List.foldl_cons, List.foldl_nil, UInt32.toNat_ofNat']
  omega

theorem word32At?_eq (h : start + 4 ≤ bytes.length) :
    word32At? bytes start = some (UInt32.ofNat (beNat (slice bytes start (start + 4)))) := by
  have hcons (k : Nat) (hk : k < 4) : ∃ b, bytes[start + k]? = some b ∧
      slice bytes (start + k) (start + 4) = b :: slice bytes (start + k + 1) (start + 4) :=
    slice_eq_cons (by omega) h
  obtain ⟨b₀, hb₀, h₀⟩ := hcons 0 (by omega)
  obtain ⟨b₁, hb₁, h₁⟩ := hcons 1 (by omega)
  obtain ⟨b₂, hb₂, h₂⟩ := hcons 2 (by omega)
  obtain ⟨b₃, hb₃, h₃⟩ := hcons 3 (by omega)
  rw [Nat.add_zero] at hb₀ h₀
  simp only [word32At?, hb₀, hb₁, hb₂, hb₃, Option.bind_eq_bind, Option.bind_some, h₀, h₁, h₂, h₃,
    slice_eq_nil (Nat.le_refl _), word32_eq]
  rfl

namespace Rtp

def checkedHeaderLength? (packet : Bytes) : Option (Option Nat) := do
  if packet.length < fixedLength then return none
  let b : UInt8 ← packet[0]?
  if b >>> 6 ≠ 2 then return none
  let start := extensionStart (b &&& 0x0f).toNat
  if b &&& 0x10 ≠ 0 then
    if packet.length < start + 4 then return none
    let length := start + 4 + 4 * (← word16At? packet (start + 2)).toNat
    return if packet.length < length then none else some length
  else return if packet.length < start then none else some start

def oneByteScan (packet : Bytes) (stop position : Nat) : Option (List Element) :=
  if _h : position < stop then do
    let b : UInt8 ← packet[position]?
    let id := b >>> 4
    if id = 0 then oneByteScan packet stop (position + 1)
    else if id = 15 then some []
    else
      let start := position + 1
      let length := (b &&& 0x0f).toNat + 1
      if start + length > stop then some []
      else return ⟨id, start, start + length⟩ :: (← oneByteScan packet stop (start + length))
  else some []
termination_by stop - position

def twoByteScan (packet : Bytes) (stop position : Nat) : Option (List Element) :=
  if _h : position < stop then do
    let id : UInt8 ← packet[position]?
    if id = 0 then twoByteScan packet stop (position + 1)
    else if position + 1 ≥ stop then some []
    else
      let start := position + 2
      let size : UInt8 ← packet[position + 1]?
      let length := size.toNat
      if start + length > stop then some []
      else return ⟨id, start, start + length⟩ :: (← twoByteScan packet stop (start + length))
  else some []
termination_by stop - position

def checkedElements (packet : Bytes) : Option (List Element) := do
  match ← checkedHeaderLength? packet with
  | none => return []
  | some length =>
    let b : UInt8 ← packet[0]?
    if b &&& 0x10 = 0 then return []
    let start := extensionStart (b &&& 0x0f).toNat
    let profile ← word16At? packet start
    if profile = oneByteProfile then oneByteScan packet length (start + 4)
    else if profile &&& 0xfff0 = twoByteProfile then twoByteScan packet length (start + 4)
    else return []

theorem oneByteElements_skip (skip position : Nat) (bytes : Bytes) :
    oneByteElements skip position bytes = oneByteElements 0 (position + skip) (bytes.drop skip) := by
  induction bytes generalizing skip position with
  | nil => simp [oneByteElements]
  | cons b rest ih =>
    cases skip with
    | zero => rfl
    | succ skip =>
      rw [oneByteElements, ih, List.drop_succ_cons]
      congr 1
      omega

theorem twoByteElements_skip (skip position : Nat) (bytes : Bytes) :
    twoByteElements skip position bytes = twoByteElements 0 (position + skip) (bytes.drop skip) := by
  induction bytes generalizing skip position with
  | nil => simp [twoByteElements]
  | cons b rest ih =>
    cases skip with
    | zero => rfl
    | succ skip =>
      rw [twoByteElements, ih, List.drop_succ_cons]
      congr 1
      omega

theorem oneByteScan_eq (hs : stop ≤ packet.length) (position : Nat) :
    oneByteScan packet stop position = some (oneByteElements 0 position (slice packet position stop)) := by
  induction hn : stop - position using Nat.strongRecOn generalizing position with
  | ind n ih =>
    subst hn
    rw [oneByteScan]
    by_cases hp : position < stop
    · obtain ⟨b, hb, hslice⟩ := slice_eq_cons hp hs
      have hl : (slice packet (position + 1) stop).length = stop - (position + 1) := length_slice_of_le hs
      have hnext (k : Nat) (hk : position < k) := ih (stop - k) (by omega) k rfl
      rw [dif_pos hp, hb, hslice, oneByteElements]
      simp only [Option.bind_eq_bind, Option.bind_some, hnext _ (Nat.lt_succ_self position)]
      split
      · rfl
      split
      · rfl
      by_cases hfits : position + 1 + ((b &&& 15).toNat + 1) > stop
      · rw [if_pos hfits, if_neg (by rw [holds_iff]; omega)]
      · rw [if_neg hfits, if_pos (by rw [holds_iff]; omega), hnext _ (by omega), oneByteElements_skip (_ + 1),
          drop_slice]
        rfl
    · rw [dif_neg hp, slice_eq_nil (by omega)]
      rfl

theorem twoByteElements_padding (position : Nat) (rest : Bytes) :
    twoByteElements 0 position (0 :: rest) = twoByteElements 0 (position + 1) rest := by
  cases rest <;> simp [twoByteElements]

theorem twoByteScan_eq (hs : stop ≤ packet.length) (position : Nat) :
    twoByteScan packet stop position = some (twoByteElements 0 position (slice packet position stop)) := by
  induction hn : stop - position using Nat.strongRecOn generalizing position with
  | ind n ih =>
    subst hn
    rw [twoByteScan]
    by_cases hp : position < stop
    case neg =>
      rw [dif_neg hp, slice_eq_nil (by omega)]
      rfl
    obtain ⟨id, hid, hslice⟩ := slice_eq_cons hp hs
    have hnext (k : Nat) (hk : position < k) := ih (stop - k) (by omega) k rfl
    rw [dif_pos hp, hid, hslice]
    simp only [Option.bind_eq_bind, Option.bind_some]
    by_cases hpad : id = 0
    · rw [if_pos hpad, hnext _ (Nat.lt_succ_self position), hpad, twoByteElements_padding]
    rw [if_neg hpad]
    by_cases hend : position + 1 ≥ stop
    · rw [if_pos hend, slice_eq_nil hend, twoByteElements, if_neg hpad]
    obtain ⟨size, hsize, hrest⟩ := slice_eq_cons (Nat.lt_of_not_le hend) hs
    have hl : (slice packet (position + 1 + 1) stop).length = stop - (position + 1 + 1) := length_slice_of_le hs
    rw [if_neg hend, hsize, hrest, twoByteElements, if_neg hpad]
    simp only [Option.bind_some]
    by_cases hfits : position + 2 + size.toNat > stop
    · rw [if_pos hfits, if_neg (by rw [holds_iff]; omega)]
    · have hstart : position + 1 + (size.toNat + 1) = position + 2 + size.toNat := by omega
      rw [if_neg hfits, if_pos (by rw [holds_iff]; omega), hnext _ (by omega), twoByteElements_skip (_ + 1),
        List.drop_succ_cons, drop_slice, hstart]
      rfl

theorem extensionWords?_eq (hp : position + 4 ≤ packet.length) :
    ∃ words, word16At? packet (position + 2) = some words ∧ extensionWords? packet position = some words.toNat := by
  have hl : 4 ≤ (packet.drop position).length := by
    rw [List.length_drop]
    omega
  simp only [extensionWords?, word16At?, ← List.getElem?_drop, Nat.add_assoc]
  match packet.drop position, hl with
  | _ :: _ :: w₁ :: w₀ :: _, _ => exact ⟨word16 w₁ w₀, rfl, rfl⟩

theorem extensionWords?_eq_none (hp : packet.length < position + 4) : extensionWords? packet position = none := by
  have hl : (packet.drop position).length < 4 := by
    rw [List.length_drop]
    omega
  unfold extensionWords?
  match packet.drop position, hl with
  | [], _ | [_], _ | [_, _], _ | [_, _, _], _ => rfl

theorem Header.read?_of_length (hl : fixedLength ≤ packet.length) :
    ∃ (b : UInt8) (seq : UInt16) (ssrc : UInt32),
      packet[0]? = some b ∧ word16At? packet 2 = some seq ∧ word32At? packet 8 = some ssrc ∧
      Header.read? packet =
        let csrcCount := (b &&& 0x0f).toNat
        let extended := b &&& 0x10 != 0
        if b >>> 6 = 2 then
          match announcedLength? packet csrcCount extended with
          | some length => if length ≤ packet.length then some ⟨csrcCount, extended, seq, ssrc, length⟩ else none
          | none => none
        else none := by
  match packet, hl with
  | b :: _ :: s₁ :: s₀ :: _ :: _ :: _ :: _ :: x₃ :: x₂ :: x₁ :: x₀ :: _, _ =>
    exact ⟨b, word16 s₁ s₀, word32 x₃ x₂ x₁ x₀, rfl, rfl, rfl, rfl⟩

theorem Header.fixedLength_le_length {h : Header} (hr : Header.read? packet = some h) :
    fixedLength ≤ packet.length := by
  have := h.fixedLength_le_fixedEnd
  have := Header.fixedEnd_le_length hr
  have := Header.length_le hr
  omega

theorem Header.read?_of_lt (hl : packet.length < fixedLength) : Header.read? packet = none := by
  rw [Option.eq_none_iff_forall_ne_some]
  intro h hr
  have := Header.fixedLength_le_length hr
  omega

theorem Header.fields_of_read? {h : Header} (hr : Header.read? packet = some h) :
    ∃ b : UInt8, packet[0]? = some b ∧ h.csrcCount = (b &&& 0x0f).toNat ∧ h.extended = (b &&& 0x10 != 0) ∧
      word16At? packet 2 = some h.seq ∧ word32At? packet 8 = some h.ssrc := by
  obtain ⟨b, seq, ssrc, hb, hseq, hssrc, hread⟩ := Header.read?_of_length (Header.fixedLength_le_length hr)
  rw [hr] at hread
  dsimp only at hread
  split at hread
  · split at hread
    · split at hread
      · cases hread
        exact ⟨b, hb, rfl, rfl, hseq, hssrc⟩
      · cases hread
    · cases hread
  · cases hread

theorem checkedHeaderLength?_eq (packet : Bytes) : checkedHeaderLength? packet = some (headerLength? packet) := by
  rw [checkedHeaderLength?, headerLength?]
  by_cases hl : packet.length < fixedLength
  · rw [if_pos hl, Header.read?_of_lt hl]
    rfl
  obtain ⟨b, seq, ssrc, hb, -, -, hread⟩ := Header.read?_of_length (Nat.le_of_not_lt hl)
  rw [if_neg hl, hb, hread]
  dsimp only [Option.bind_eq_bind, Option.bind_some, announcedLength?]
  generalize extensionStart (b &&& 0x0f).toNat = start
  by_cases hv : b >>> 6 = 2
  case neg =>
    rw [if_pos hv, if_neg hv]
    rfl
  rw [if_neg (not_not_intro hv), if_pos hv]
  by_cases hx : b &&& 0x10 = 0
  · simp only [hx, ne_eq, not_true_eq_false, if_false]
    by_cases hfits : packet.length < start
    · simp [hfits, Nat.not_le.mpr hfits]
    · simp [hfits, Nat.le_of_not_lt hfits]
  · have hb : (b &&& 0x10 != 0) = true := by simpa using hx
    simp only [hx, ne_eq, not_false_eq_true, if_true, hb]
    by_cases hroom : packet.length < start + 4
    · simp [hroom, extensionWords?_eq_none hroom]
    · obtain ⟨words, hword, hwords⟩ := extensionWords?_eq (Nat.le_of_not_lt hroom)
      simp only [hroom, if_false, hword, hwords, Option.bind_some, Option.map_some]
      by_cases hfits : packet.length < start + 4 + 4 * words.toNat
      · simp [hfits, Nat.not_le.mpr hfits]
      · simp [hfits, Nat.le_of_not_lt hfits]

theorem blockElements_slice (hp : position + 4 ≤ stop) (hs : stop ≤ packet.length) :
    ∃ profile, word16At? packet position = some profile ∧ blockElements position (slice packet position stop) =
      if profile = oneByteProfile then oneByteElements 0 (position + 4) (slice packet (position + 4) stop)
      else if profile &&& 0xfff0 = twoByteProfile then
        twoByteElements 0 (position + 4) (slice packet (position + 4) stop)
      else [] := by
  have hcons (k : Nat) (hk : k < 4) : ∃ b, packet[position + k]? = some b ∧
      slice packet (position + k) stop = b :: slice packet (position + k + 1) stop := slice_eq_cons (by omega) hs
  obtain ⟨hi, hhi, h₀⟩ := hcons 0 (by omega)
  obtain ⟨lo, hlo, h₁⟩ := hcons 1 (by omega)
  obtain ⟨_, -, h₂⟩ := hcons 2 (by omega)
  obtain ⟨_, -, h₃⟩ := hcons 3 (by omega)
  rw [Nat.add_zero] at hhi h₀
  refine ⟨word16 hi lo, ?_, ?_⟩
  · simp only [word16At?, hhi, hlo, Option.bind_eq_bind, Option.bind_some]
    rfl
  · rw [h₀, h₁, h₂, h₃]
    rfl

theorem checkedElements_eq (packet : Bytes) : checkedElements packet = some (elements packet) := by
  rw [checkedElements, checkedHeaderLength?_eq, headerLength?]
  cases hr : Header.read? packet with
  | none => simp [elements, hr]
  | some h =>
    obtain ⟨b, hb, hcount, hextended, -, -⟩ := Header.fields_of_read? hr
    have hl := Header.length_le hr
    have hf := Header.fixedEnd_le_length hr
    rw [elements_eq hr, hb]
    dsimp only [Option.bind_eq_bind, Option.bind_some, Option.map_some]
    rw [← hcount]
    by_cases hx : b &&& 0x10 = 0
    · simp [hx, hextended]
    · have he : h.extended = true := by
        rw [hextended]
        simpa using hx
      simp only [Header.fixedEnd, he, if_true] at hf
      obtain ⟨profile, hprofile, hblock⟩ := blockElements_slice hf hl
      rw [if_neg hx, if_pos he, hprofile, hblock, Option.bind_some, oneByteScan_eq hl, twoByteScan_eq hl]
      split
      · rfl
      · split <;> rfl

end Rtp

end SecureRtp
