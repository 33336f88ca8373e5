import SecureRtp.Proofs.Packet.Checked

namespace SecureRtp.Rtp

theorem toNat_word16 (hi lo : UInt8) : (word16 hi lo).toNat = 256 * hi.toNat + lo.toNat := by
  have hh := hi.toNat_lt
  have hshift : (hi.toUInt16 <<< 8).toNat = hi.toNat <<< 8 := by
    simp only [UInt16.toNat_shiftLeft, UInt8.toNat_toUInt16, Nat.shiftLeft_eq]
    exact Nat.mod_eq_of_lt (Nat.lt_of_le_of_lt (Nat.mul_le_mul_right _ (Nat.le_of_lt_succ hh)) (by decide))
  rw [word16, UInt16.toNat_or, hshift, UInt8.toNat_toUInt16, ← Nat.shiftLeft_add_eq_or_of_lt lo.toNat_lt,
    Nat.shiftLeft_eq]
  omega

theorem exists_word16_beBytes (word : UInt16) :
    ∃ hi lo, beBytes 2 word.toNat = [hi, lo] ∧ word16 hi lo = word := by
  have hw := word.toNat_lt
  refine ⟨_, _, rfl, ?_⟩
  apply UInt16.toNat_inj.mp
  rw [toNat_word16, UInt8.toNat_ofNat', UInt8.toNat_ofNat']
  omega

def Element.content (packet : Bytes) (e : Element) : UInt8 × Bytes := (e.id, slice packet e.start e.stop)

inductive Form where
  | oneByte
  | twoByte (low : UInt16)

namespace Form

def profile : Form → UInt16
  | .oneByte => oneByteProfile
  | .twoByte low => twoByteProfile ||| (low &&& 0x000f)

def Fits (id : UInt8) (length : Nat) : Form → Prop
  | .oneByte => 1 ≤ id ∧ id ≤ 14 ∧ 1 ≤ length ∧ length ≤ 16
  | .twoByte _ => 1 ≤ id ∧ length ≤ 255

instance (id : UInt8) (length : Nat) (form : Form) : Decidable (form.Fits id length) :=
  match form with
  | .oneByte => inferInstanceAs (Decidable (_ ∧ _ ∧ _ ∧ _))
  | .twoByte _ => inferInstanceAs (Decidable (_ ∧ _))

def head (id : UInt8) (length : Nat) : Form → Bytes
  | .oneByte => [UInt8.ofNat (16 * id.toNat + (length - 1))]
  | .twoByte _ => [id, UInt8.ofNat length]

def scan (position : Nat) (bytes : Bytes) : Form → List Element
  | .oneByte => oneByteElements 0 position bytes
  | .twoByte _ => twoByteElements 0 position bytes

variable {form : Form} {id : UInt8} {length : Nat}

theorem masked_profile_twoByte (low : UInt16) : (twoByte low).profile &&& 0xfff0 = twoByteProfile := by
  have hlow : UInt16.toNat 0x000f &&& UInt16.toNat 0xfff0 = 0 := by decide
  apply UInt16.toNat_inj.mp
  simp only [profile, UInt16.toNat_or, UInt16.toNat_and]
  rw [Nat.and_or_distrib_right, Nat.and_assoc, hlow, Nat.and_zero, Nat.or_zero]
  decide

theorem exists_twoByte_of_masked {word : UInt16} (h : word &&& 0xfff0 = twoByteProfile) :
    ∃ low, (twoByte low).profile = word := by
  refine ⟨word, ?_⟩
  apply UInt16.toNat_inj.mp
  rw [profile, ← h]
  simp only [UInt16.toNat_or, UInt16.toNat_and]
  rw [← Nat.and_or_distrib_left]
  exact Nat.and_two_pow_sub_one_of_lt_two_pow word.toNat_lt

theorem scan_padding (form : Form) (position n : Nat) (rest : Bytes) :
    form.scan position (zeros n ++ rest) = form.scan (position + n) rest := by
  induction n generalizing position with
  | zero => rfl
  | succ n ih =>
    have hstep : form.scan position (0 :: (zeros n ++ rest)) = form.scan (position + 1) (zeros n ++ rest) := by
      cases form with
      | oneByte => rfl
      | twoByte low => exact twoByteElements_padding _ _
    rw [zeros, List.replicate_succ, List.cons_append, ← zeros, hstep, ih, Nat.add_assoc, Nat.add_comm 1 n]

theorem nibbles_head (hf : oneByte.Fits id length) :
    let b := UInt8.ofNat (16 * id.toNat + (length - 1))
    b >>> 4 = id ∧ (b &&& 0x0f).toNat + 1 = length := by
  intro b
  obtain ⟨-, hid, hmin, hmax⟩ := hf
  have hid : id.toNat ≤ 14 := UInt8.le_iff_toNat_le.mp hid
  have hb : b.toNat = 16 * id.toNat + (length - 1) := by
    rw [UInt8.toNat_ofNat']
    omega
  constructor
  · apply UInt8.toNat_inj.mp
    rw [UInt8.toNat_shiftRight, hb, Nat.shiftRight_eq_div_pow]
    change _ / 16 = _
    omega
  · rw [UInt8.toNat_and, hb]
    change (_ &&& 2 ^ 4 - 1) + 1 = _
    rw [Nat.and_two_pow_sub_one_eq_mod]
    omega

theorem fits_nibbles {b : UInt8} (hpad : b >>> 4 ≠ 0) (hend : b >>> 4 ≠ 15) :
    oneByte.Fits (b >>> 4) ((b &&& 0x0f).toNat + 1) := by
  have hb := b.toNat_lt
  have hid : (b >>> 4).toNat = b.toNat / 16 := by
    rw [UInt8.toNat_shiftRight, Nat.shiftRight_eq_div_pow]
    rfl
  have hlength : (b &&& 0x0f).toNat ≤ 15 := by
    rw [UInt8.toNat_and]
    exact Nat.and_le_right
  rw [ne_eq, ← UInt8.toNat_inj, hid] at hpad hend
  change ¬b.toNat / 16 = 0 at hpad
  change ¬b.toNat / 16 = 15 at hend
  refine ⟨UInt8.le_iff_toNat_le.mpr ?_, UInt8.le_iff_toNat_le.mpr ?_, by omega, by omega⟩
  · change 1 ≤ _
    omega
  · change _ ≤ 14
    omega

theorem scan_head {data : Bytes} (hf : form.Fits id data.length) (position : Nat) (rest : Bytes) :
    let start := position + (form.head id data.length).length
    form.scan position (form.head id data.length ++ (data ++ rest)) =
      ⟨id, start, start + data.length⟩ :: form.scan (start + data.length) rest := by
  have hid : id ≠ 0 := by
    rintro rfl
    cases form with
    | oneByte => exact absurd hf.1 (by decide)
    | twoByte low => exact absurd hf.1 (by decide)
  have hlength : (data ++ rest).length = data.length + rest.length := List.length_append
  cases form with
  | oneByte =>
    obtain ⟨hhead, hdata⟩ := nibbles_head hf
    have hlast : id ≠ 15 := by
      rintro rfl
      exact absurd hf.2.1 (by decide)
    have hholds : holds (data ++ rest) data.length = true := (holds_iff _ _).mpr (by omega)
    simp only [scan, head, List.cons_append, List.nil_append, oneByteElements, hhead, hdata, hid, hlast, hholds,
      if_true, if_false]
    rw [oneByteElements_skip, List.drop_left]
    rfl
  | twoByte low =>
    have hdata : (UInt8.ofNat data.length).toNat = data.length := by
      rw [UInt8.toNat_ofNat']
      exact Nat.mod_eq_of_lt (Nat.lt_succ_of_le hf.2)
    have hholds : holds (data ++ rest) data.length = true := (holds_iff _ _).mpr (by omega)
    simp only [scan, head, List.cons_append, List.nil_append, twoByteElements, hdata, hid, hholds, if_true, if_false]
    rw [twoByteElements_skip, List.drop_left]
    rfl

structure Piece (form : Form) where
  padding : Nat
  id : UInt8
  data : Bytes
  fits : form.Fits id data.length

def body (form : Form) (padding : Nat) : List (Piece form) → Bytes
  | [] => zeros padding
  | p :: pieces => zeros p.padding ++ (form.head p.id p.data.length ++ (p.data ++ form.body padding pieces))

theorem content_scan_body (pieces : List (Piece form)) (padding : Nat) (before after : Bytes) :
    (form.scan before.length (form.body padding pieces)).map
        (Element.content (before ++ (form.body padding pieces ++ after))) =
      pieces.map fun p => (p.id, p.data) := by
  induction pieces generalizing before with
  | nil =>
    have hend : form.scan before.length (zeros padding) = form.scan (before.length + padding) [] := by
      rw [← scan_padding, List.append_nil]
    rw [body, hend]
    cases form <;> rfl
  | cons p pieces ih =>
    rw [body, scan_padding, scan_head p.fits, List.map_cons, List.map_cons]
    generalize hrest : form.body padding pieces = rest at ih
    generalize hhead : form.head p.id p.data.length = head
    let start := before ++ (zeros p.padding ++ head)
    have hpacket : before ++ (zeros p.padding ++ (head ++ (p.data ++ rest)) ++ after) =
        start ++ (p.data ++ (rest ++ after)) := by
      simp only [start, List.append_assoc]
    have hstart : before.length + p.padding + head.length = start.length := by
      simp only [start, List.length_append, length_zeros, Nat.add_assoc]
    -- For the pieces that follow, this one is part of what stands before them.
    have hnext := ih (start ++ p.data)
    rw [List.append_assoc start, List.length_append] at hnext
    rw [hpacket, hstart, hnext, Element.content, slice_mid rfl rfl]

theorem blockElements_written (form : Form) (position : Nat) (words : UInt16) (rest : Bytes) :
    blockElements position (beBytes 2 form.profile.toNat ++ (beBytes 2 words.toNat ++ rest)) =
      form.scan (position + 4) rest := by
  obtain ⟨p₁, p₀, hp, hprofile⟩ := exists_word16_beBytes form.profile
  obtain ⟨w₁, w₀, hw, -⟩ := exists_word16_beBytes words
  rw [hp, hw]
  simp only [List.cons_append, List.nil_append, blockElements, hprofile]
  cases form with
  | oneByte => rfl
  | twoByte low =>
    have hmasked := masked_profile_twoByte low
    -- The first form is tested before, and its profile has other high bits.
    have hother : (twoByte low).profile ≠ oneByteProfile := by
      intro h
      rw [h] at hmasked
      exact absurd hmasked (by decide)
    rw [if_neg hother, if_pos hmasked]
    rfl

end Form

/-- A packet with an extension block of whole words. The first byte has the version, the extension bit and the number of
contributing sources. -/
structure Extended (form : Form) where
  first : UInt8
  fixed : Bytes
  sources : Bytes
  words : UInt16
  pieces : List (Form.Piece form)
  padding : Nat
  payload : Bytes
  version : first >>> 6 = 2
  extension : first &&& 0x10 ≠ 0
  length_fixed : 1 + fixed.length = fixedLength
  length_sources : sources.length = 4 * (first &&& 0x0f).toNat
  length_body : (form.body padding pieces).length = 4 * words.toNat

namespace Extended

variable {form : Form} (x : Extended form)

def head : Bytes := x.first :: (x.fixed ++ x.sources)

def block : Bytes := beBytes 2 form.profile.toNat ++ (beBytes 2 x.words.toNat ++ form.body x.padding x.pieces)

def packet : Bytes := x.head ++ (x.block ++ x.payload)

theorem length_head : x.head.length = extensionStart (x.first &&& 0x0f).toNat := by
  have := x.length_fixed
  have := x.length_sources
  simp only [head, extensionStart, List.length_cons, List.length_append]
  omega

theorem length_block : x.block.length = 4 + 4 * x.words.toNat := by
  have := x.length_body
  simp only [block, List.length_append, length_beBytes]
  omega

theorem extensionWords?_packet : extensionWords? x.packet x.head.length = some x.words.toNat := by
  obtain ⟨p₁, p₀, hp, -⟩ := exists_word16_beBytes form.profile
  obtain ⟨w₁, w₀, hw, hwords⟩ := exists_word16_beBytes x.words
  unfold extensionWords? packet
  rw [List.drop_left, block, hp, hw]
  simp only [List.cons_append, List.nil_append, hwords]

theorem exists_header : ∃ h, Header.read? x.packet = some h ∧ h.extended = true ∧
    extensionStart h.csrcCount = x.head.length ∧ h.length = x.head.length + x.block.length := by
  have hstart := x.length_head
  have hblock := x.length_block
  have hpacket : x.packet.length = x.head.length + (x.block.length + x.payload.length) := by
    simp only [packet, List.length_append]
  have hl : fixedLength ≤ x.packet.length := by
    rw [hpacket, hstart, extensionStart]
    omega
  have hannounced : announcedLength? x.packet (x.first &&& 0x0f).toNat true =
      some (x.head.length + x.block.length) := by
    rw [announcedLength?, ← hstart, extensionWords?_packet, hblock, ← Nat.add_assoc]
    rfl
  have hextended : (x.first &&& 0x10 != 0) = true := bne_iff_ne.mpr x.extension
  obtain ⟨b, seq, ssrc, hb, -, -, hread⟩ := Header.read?_of_length hl
  cases (show some x.first = some b from hb)
  dsimp only at hread
  rw [if_pos x.version, hextended, hannounced] at hread
  dsimp only at hread
  rw [if_pos (by omega)] at hread
  exact ⟨_, hread, rfl, hstart.symm, rfl⟩

theorem elements_packet : elements x.packet = form.scan (x.head.length + 4) (form.body x.padding x.pieces) := by
  obtain ⟨h, hr, hextended, hstart, hlength⟩ := x.exists_header
  have hslice : slice x.packet x.head.length h.length = x.block := slice_mid rfl hlength
  rw [elements_eq hr, if_pos hextended, hstart, hslice, block, Form.blockElements_written]

theorem content_elements :
    (elements x.packet).map (Element.content x.packet) = x.pieces.map fun p => (p.id, p.data) := by
  let before := x.head ++ (beBytes 2 form.profile.toNat ++ beBytes 2 x.words.toNat)
  have hpacket : x.packet = before ++ (form.body x.padding x.pieces ++ x.payload) := by
    simp only [packet, block, before, List.append_assoc]
  have hbefore : x.head.length + 4 = before.length := by
    simp only [before, List.length_append, length_beBytes]
  rw [elements_packet, hbefore, hpacket]
  exact Form.content_scan_body x.pieces x.padding before x.payload

end Extended

structure WellSpaced (form : Form) (es : List Element) : Prop where
  apart : es.Pairwise fun d e => d.stop < e.start
  fits : ∀ e ∈ es, form.Fits e.id (e.stop - e.start)

theorem WellSpaced.nil (form : Form) : WellSpaced form [] := ⟨.nil, nofun⟩

theorem WellSpaced.cons {form : Form} {es : List Element} {id : UInt8} {start length stop : Nat}
    (h : WellSpaced form es) (ho : InOrder (start + length + 1) stop es) (hf : form.Fits id length) :
    WellSpaced form (⟨id, start, start + length⟩ :: es) := by
  constructor
  · refine List.pairwise_cons.mpr ⟨?_, h.apart⟩
    intro e he
    exact (ho.within e he).1
  · refine List.forall_mem_cons.mpr ⟨?_, h.fits⟩
    rw [Nat.add_sub_cancel_left]
    exact hf

theorem wellSpaced_oneByteElements (skip position : Nat) (bytes : Bytes) :
    WellSpaced .oneByte (oneByteElements skip position bytes) := by
  induction bytes generalizing skip position with
  | nil => exact .nil _
  | cons b rest ih =>
    cases skip with
    | succ skip => exact ih skip (position + 1)
    | zero =>
      simp only [oneByteElements]
      split
      · exact ih 0 (position + 1)
      split
      · exact .nil _
      split
      · rename_i hpad hend _
        exact (ih _ _).cons (inOrder_oneByteElements _ _ rest) (Form.fits_nibbles hpad hend)
      · exact .nil _

theorem wellSpaced_twoByteElements (low : UInt16) (skip position : Nat) (bytes : Bytes) :
    WellSpaced (.twoByte low) (twoByteElements skip position bytes) := by
  induction bytes generalizing skip position with
  | nil => exact .nil _
  | cons id rest ih =>
    cases skip with
    | succ skip => exact ih skip (position + 1)
    | zero =>
      simp only [twoByteElements]
      split
      · exact ih 0 (position + 1)
      · rename_i hpad
        cases rest with
        | nil => exact .nil _
        | cons size data =>
          dsimp only
          split
          · have hfits : (Form.twoByte low).Fits id size.toNat := by
              refine ⟨UInt8.not_lt.mp ?_, Nat.le_of_lt_succ size.toNat_lt⟩
              intro h
              exact hpad (UInt8.lt_one_iff.mp h)
            have hlater := inOrder_twoByteElements (size.toNat + 1) (position + 1) (size :: data)
            exact (ih _ _).cons (hlater.mono (by omega) (Nat.le_refl _)) hfits
          · exact .nil _

variable {packet : Bytes} {h : Header}

theorem elements_cases (hr : Header.read? packet = some h) :
    elements packet = [] ∨ ∃ form : Form, h.extended = true ∧
      word16At? packet (extensionStart h.csrcCount) = some form.profile ∧ WellSpaced form (elements packet) := by
  have hl := Header.length_le hr
  have hf := Header.fixedEnd_le_length hr
  rw [elements_eq hr]
  split
  · rename_i he
    simp only [Header.fixedEnd, he, if_true] at hf
    obtain ⟨profile, hprofile, hblock⟩ := blockElements_slice hf hl
    rw [hblock]
    split
    · rename_i hone
      exact .inr ⟨.oneByte, he, hprofile.trans (congrArg some hone), wellSpaced_oneByteElements _ _ _⟩
    split
    · rename_i htwo
      obtain ⟨low, rfl⟩ := Form.exists_twoByte_of_masked htwo
      exact .inr ⟨.twoByte low, he, hprofile, wellSpaced_twoByteElements low _ _ _⟩
    · exact .inl rfl
  · exact .inl rfl

theorem elements_take {n : Nat} (hr : Header.read? packet = some h) (hn : h.length ≤ n) :
    elements (packet.take n) = elements packet := by
  rw [elements_eq (Header.read?_take hr hn), elements_eq hr, slice, slice, List.take_take, Nat.min_eq_left hn]

structure ReadsSafely (packet : Bytes) (length : Nat) : Prop where
  fixedLength_le : fixedLength ≤ length
  length_le : length ≤ packet.length
  of_take : ∀ n, length ≤ n →
    headerLength? (packet.take n) = some length ∧ elements (packet.take n) = elements packet
  of_append : ∀ more, headerLength? (packet ++ more) = some length ∧ elements (packet ++ more) = elements packet
  elements_cases : elements packet = [] ∨ ∃ (h : Header) (form : Form),
    Header.read? packet = some h ∧ h.length = length ∧ h.extended = true ∧
      word16At? packet (extensionStart h.csrcCount) = some form.profile ∧ WellSpaced form (elements packet) ∧
      InOrder (extensionStart h.csrcCount + 4) length (elements packet)

theorem readsSafely (hr : Header.read? packet = some h) : ReadsSafely packet h.length where
  fixedLength_le := Nat.le_trans h.fixedLength_le_fixedEnd (Header.fixedEnd_le_length hr)
  length_le := Header.length_le hr
  of_take n hn := by
    rw [headerLength?, Header.read?_take hr hn]
    exact ⟨rfl, elements_take hr hn⟩
  of_append more := by
    rw [headerLength?, Header.read?_append hr more]
    exact ⟨rfl, elements_append hr more⟩
  elements_cases := by
    have horder := inOrder_elements hr
    obtain hnone | ⟨form, he, hprofile, hspaced⟩ := elements_cases hr
    · exact .inl hnone
    · rw [Header.fixedEnd, he] at horder
      exact .inr ⟨h, form, hr, rfl, he, hprofile, hspaced, horder⟩

/-- Any bytes are read without a fault, and give elements that fit their form and lie apart within the block. Of the
packets that have been written with a block, exactly its elements are read, with their data. -/
theorem reads_extension_blocks :
    (∀ packet : Bytes,
      checkedHeaderLength? packet = some (headerLength? packet) ∧ checkedElements packet = some (elements packet) ∧
        (headerLength? packet = none → elements packet = []) ∧
        ∀ n, headerLength? packet = some n → ReadsSafely packet n) ∧
    ∀ (form : Form) (x : Extended form),
      (elements x.packet).map (Element.content x.packet) = x.pieces.map fun p => (p.id, p.data) := by
  constructor
  · intro packet
    refine ⟨checkedHeaderLength?_eq packet, checkedElements_eq packet, ?_, ?_⟩
    · intro hnone
      rw [elements, Option.map_eq_none_iff.mp hnone]
    · intro n hn
      obtain ⟨h, hr, rfl⟩ := Option.map_eq_some_iff.mp hn
      exact readsSafely hr
  · intro form x
    exact x.content_elements

example :
    let piece : Form.Piece (.twoByte 0) := ⟨0, 7, [0x11, 0x22], by decide⟩
    let x : Extended (.twoByte 0) :=
      ⟨0x90, [96, 0, 1, 0, 0, 0, 0, 0, 0, 0, 9], [], 2, [piece], 4, [0x78, 0x79],
        by decide, by decide, by decide, by decide, by decide⟩
    elements x.packet = [⟨7, 18, 20⟩] := by
  decide

end SecureRtp.Rtp
