import SecureRtp.Session.Crypto
import SecureRtp.Proofs.Cipher.CounterBlocks
import SecureRtp.Proofs.Packet.Elements

namespace SecureRtp

open Rtp

def maskElement (keystream header : Bytes) (e : Element) : Bytes :=
  overwrite header e.start (xorBytes (slice header e.start e.stop) (slice keystream e.start e.stop))

theorem maskElements_cons (e : Element) (es : List Element) (keystream header : Bytes) :
    maskElements (e :: es) keystream header = maskElements es keystream (maskElement keystream header e) := rfl

variable {start stop : Nat} {e : Element} {es : List Element} {keystream header : Bytes} {h : Header}
  {keys : SessionKeys}

theorem length_maskElement (he : e.start ≤ e.stop) (hl : e.stop ≤ header.length)
    (hk : keystream.length = header.length) : (maskElement keystream header e).length = header.length := by
  apply length_overwrite
  rw [length_xorBytes, length_slice_of_le hl, length_slice_of_le (hk ▸ hl)]
  omega

theorem getElem?_maskElement (he : e.start ≤ e.stop) (hl : e.stop ≤ header.length)
    (hk : keystream.length = header.length) (i : Nat) :
    (maskElement keystream header e)[i]? =
      if e.Contains i then (xorBytes header keystream)[i]? else header[i]? := by
  have hx : (xorBytes (slice header e.start e.stop) (slice keystream e.start e.stop)).length =
      e.stop - e.start := by
    rw [length_xorBytes, length_slice_of_le hl, length_slice_of_le (hk ▸ hl), Nat.min_self]
  rw [maskElement, getElem?_overwrite (by omega), hx]
  by_cases hc : e.Contains i
  · obtain ⟨h1, h2⟩ := hc
    rw [if_pos (by omega), if_pos ⟨h1, h2⟩]
    simp only [getElem?_xorBytes, getElem?_slice, Nat.add_sub_cancel' h1, h2, if_true]
  · rw [if_neg hc, if_neg]
    simp only [Element.Contains] at hc
    omega

theorem length_maskElements (ho : InOrder start stop es) (hs : stop ≤ header.length)
    (hk : keystream.length = header.length) : (maskElements es keystream header).length = header.length := by
  induction es generalizing header with
  | nil => rfl
  | cons e es ih =>
    obtain ⟨-, he, hl⟩ := ho.within e List.mem_cons_self
    have hlen : (maskElement keystream header e).length = header.length := length_maskElement he (by omega) hk
    rw [maskElements_cons, ih ⟨ho.separate.of_cons, fun d hd => ho.within d (List.mem_cons_of_mem _ hd)⟩
      (by omega) (by omega), hlen]

theorem getElem?_maskElements (ho : InOrder start stop es) (hs : stop ≤ header.length)
    (hk : keystream.length = header.length) (i : Nat) :
    (maskElements es keystream header)[i]? =
      if ∃ e ∈ es, e.Contains i then (xorBytes header keystream)[i]? else header[i]? := by
  induction es generalizing header with
  | nil => simp [maskElements]
  | cons e es ih =>
    obtain ⟨-, he, hl⟩ := ho.within e List.mem_cons_self
    have hlen : (maskElement keystream header e).length = header.length := length_maskElement he (by omega) hk
    have hmask : (maskElement keystream header e)[i]? =
        if e.Contains i then (xorBytes header keystream)[i]? else header[i]? :=
      getElem?_maskElement he (by omega) hk i
    have hsep := (List.pairwise_cons.mp ho.separate).1
    rw [maskElements_cons, ih ⟨ho.separate.of_cons, fun d hd => ho.within d (List.mem_cons_of_mem _ hd)⟩
      (by omega) (by omega)]
    simp only [List.mem_cons, exists_eq_or_imp]
    by_cases hc : e.Contains i
    · have hno : ¬∃ d ∈ es, d.Contains i := by
        rintro ⟨d, hd, hdi⟩
        have := hsep d hd
        have := hc.2
        have := hdi.1
        omega
      rw [if_neg hno, hmask, if_pos hc, if_pos (.inl hc)]
    · by_cases hd : ∃ d ∈ es, d.Contains i
      · rw [if_pos hd, if_pos (.inr hd)]
        simp only [getElem?_xorBytes, hmask, if_neg hc]
      · rw [if_neg hd, hmask, if_neg hc, if_neg (fun ho => ho.elim hc hd)]

def maskedElements (ids : List UInt8) (header : Bytes) : List Element :=
  (elements header).filter fun e => ids.contains e.id

theorem mem_maskedElements {ids : List UInt8} : e ∈ maskedElements ids header ↔ e ∈ elements header ∧ e.id ∈ ids := by
  rw [maskedElements, List.mem_filter, List.contains_iff_mem]

def headerKeystream (keys : SessionKeys) (ssrc : UInt32) (index : UInt64) (length : Nat) : Bytes :=
  CounterMode.crypt keys.cipherKey (Nonce.counterMode keys.salt ssrc index) (zeros length)

theorem getElem?_headerKeystream {key : Aes.Key} (hk : Aes.Key.ofBytes? keys.cipherKey = some key) (ssrc : UInt32)
    (index : UInt64) (length i : Nat) :
    (headerKeystream keys ssrc index length)[i]? =
      if i < length then some (CounterMode.keystreamByte key (Nonce.counterMode keys.salt ssrc index) i)
      else none := by
  rw [headerKeystream, CounterMode.crypt_zeros hk, CounterMode.getElem?_keystream]

def maskedHeader (keys : SessionKeys) (ids : List UInt8) (ssrc : UInt32) (index : UInt64) (header : Bytes) :
    Bytes :=
  maskElements (maskedElements ids header) (headerKeystream keys ssrc index header.length) header

theorem maskHeader_eq (hk : (Aes.Key.ofBytes? keys.cipherKey).isSome) (ids : List UInt8) (ssrc : UInt32)
    (index : UInt64) (header : Bytes) :
    maskHeader keys ids ssrc index header = .ok (maskedHeader keys ids ssrc index header) := by
  unfold maskHeader maskedHeader maskedElements
  split
  · rename_i hnil
    rw [hnil]
    rfl
  · rw [CounterMode.transform_eq_crypt hk]
    rfl

section

variable (hr : Header.read? header = some h) (ids : List UInt8) (ssrc : UInt32) (index : UInt64)

include hr

theorem getElem?_maskedHeader (i : Nat) :
    (maskedHeader keys ids ssrc index header)[i]? =
      if ∃ e ∈ maskedElements ids header, e.Contains i then
        (xorBytes header (headerKeystream keys ssrc index header.length))[i]?
      else header[i]? :=
  getElem?_maskElements ((inOrder_elements hr).filter _) (Header.length_le hr) (by simp [headerKeystream]) i

theorem length_maskedHeader : (maskedHeader keys ids ssrc index header).length = header.length :=
  length_maskElements ((inOrder_elements hr).filter _) (Header.length_le hr) (by simp [headerKeystream])

theorem sameOutside_maskedHeader :
    SameOutside (elements header) 0 0 header (maskedHeader keys ids ssrc index header) := by
  constructor
  · exact (length_maskedHeader hr ids ssrc index).symm
  · intro i _ hi
    rw [getElem?_maskedHeader hr, if_neg]
    rintro ⟨e, he, hc⟩
    exact hi e (mem_maskedElements.mp he).1 (by simpa using hc)

theorem read?_maskedHeader : Header.read? (maskedHeader keys ids ssrc index header) = some h :=
  Header.read?_of_sameOutside hr (sameOutside_maskedHeader hr ids ssrc index)

theorem elements_maskedHeader : elements (maskedHeader keys ids ssrc index header) = elements header :=
  elements_of_sameOutside hr (sameOutside_maskedHeader hr ids ssrc index)

theorem maskedHeader_maskedHeader :
    maskedHeader keys ids ssrc index (maskedHeader keys ids ssrc index header) = header := by
  apply List.ext_getElem?
  intro i
  have hk : header.length ≤ (headerKeystream keys ssrc index header.length).length := by
    simp [headerKeystream]
  rw [getElem?_maskedHeader (read?_maskedHeader hr ids ssrc index), length_maskedHeader hr]
  simp only [maskedElements, elements_maskedHeader hr]
  change (if ∃ e ∈ maskedElements ids header, e.Contains i then _ else _) = _
  by_cases hc : ∃ e ∈ maskedElements ids header, e.Contains i
  · rw [if_pos hc, getElem?_xorBytes, getElem?_maskedHeader hr, if_pos hc, ← getElem?_xorBytes,
      xorBytes_xorBytes hk]
  · rw [if_neg hc, getElem?_maskedHeader hr, if_neg hc]

end

structure Masked (key : Aes.Key) (iv : Block) (ids : List UInt8) (header masked : Bytes) : Prop where
  headerLength_eq : headerLength? masked = headerLength? header
  elements_eq : elements masked = elements header
  outside : ∀ i, (∀ e ∈ elements header, e.id ∈ ids → ¬e.Contains i) → masked[i]? = header[i]?
  inside : ∀ e ∈ elements header, e.id ∈ ids → ∀ i, e.Contains i → ∃ b, header[i]? = some b ∧
    masked[i]? = some (b ^^^ CounterMode.keystreamByte key iv i)

theorem masked_maskedHeader {key : Aes.Key} (hr : Header.read? header = some h)
    (hk : Aes.Key.ofBytes? keys.cipherKey = some key) (ids : List UInt8) (ssrc : UInt32) (index : UInt64) :
    Masked key (Nonce.counterMode keys.salt ssrc index) ids header (maskedHeader keys ids ssrc index header) := by
  constructor
  case headerLength_eq => rw [headerLength?, headerLength?, read?_maskedHeader hr, hr]
  case elements_eq => exact elements_maskedHeader hr ids ssrc index
  case outside =>
    intro i hi
    rw [getElem?_maskedHeader hr, if_neg]
    rintro ⟨e, he, hc⟩
    obtain ⟨hmem, hid⟩ := mem_maskedElements.mp he
    exact hi e hmem hid hc
  case inside =>
    intro e hmem hid i hc
    have hlt : i < header.length := by
      have hstop := ((inOrder_elements hr).within e hmem).2.2
      have hlen := Header.length_le hr
      have := hc.2
      omega
    refine ⟨header[i], List.getElem?_eq_getElem hlt, ?_⟩
    rw [getElem?_maskedHeader hr, if_pos ⟨e, mem_maskedElements.mpr ⟨hmem, hid⟩, hc⟩, getElem?_xorBytes,
      getElem?_headerKeystream hk, if_pos hlt, List.getElem?_eq_getElem hlt]
    rfl

/-- Both ends mask with the keystream counted from the start of the packet, and each reads the same elements, the one
before masking and the other after. -/
theorem masking_is_involution (hh : headerLength? header = some header.length)
    (hk : keys.cipherKey.length = 16 ∨ keys.cipherKey.length = 32) (ids : List UInt8) (ssrc : UInt32)
    (index : UInt64) :
    ∃ key masked, Aes.Key.ofBytes? keys.cipherKey = some key ∧
      maskHeader keys ids ssrc index header = .ok masked ∧
      Masked key (Nonce.counterMode keys.salt ssrc index) ids header masked ∧
      maskHeader keys ids ssrc index masked = .ok header := by
  obtain ⟨h, hr, -⟩ := Option.map_eq_some_iff.mp hh
  have hsome := Aes.Key.ofBytes?_isSome.mpr hk
  obtain ⟨key, hkey⟩ := Option.isSome_iff_exists.mp hsome
  refine ⟨key, maskedHeader keys ids ssrc index header, hkey, maskHeader_eq hsome ids ssrc index header,
    masked_maskedHeader hr hkey ids ssrc index, ?_⟩
  rw [maskHeader_eq hsome, maskedHeader_maskedHeader hr]

def repeatedHeader : Bytes :=
  [0x90, 0x60, 0, 1, 0, 0, 0, 2, 0, 0, 0, 3, 0xbe, 0xde, 0, 2, 0x51, 0xaa, 0xbb, 0, 0x50, 0xcc, 0x5f, 0xdd]

theorem masking_of_repeated_elements :
    let keys : SessionKeys := ⟨zeros 16, [], zeros 14⟩
    elements repeatedHeader = [⟨5, 17, 19⟩, ⟨5, 21, 22⟩] ∧
      headerLength? repeatedHeader = some repeatedHeader.length ∧ keys.cipherKey.length = 16 ∧
      ∃ key masked, Aes.Key.ofBytes? keys.cipherKey = some key ∧
        maskHeader keys [5] 3 1 repeatedHeader = .ok masked ∧
        Masked key (Nonce.counterMode keys.salt 3 1) [5] repeatedHeader masked ∧
        maskHeader keys [5] 3 1 masked = .ok repeatedHeader := by
  intro keys
  have hlength : headerLength? repeatedHeader = some repeatedHeader.length := by decide
  have hkey : keys.cipherKey.length = 16 := length_zeros 16
  exact ⟨by decide, hlength, hkey, masking_is_involution hlength (.inl hkey) [5] 3 1⟩

end SecureRtp
