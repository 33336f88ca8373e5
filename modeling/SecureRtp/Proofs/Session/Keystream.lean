import SecureRtp.Proofs.Cipher.CounterBlocks
import SecureRtp.Proofs.Session.Delivery
import SecureRtp.Proofs.Session.Nonce

namespace SecureRtp

open Rtp
open Session (Sends)

namespace SentPacket

variable {d : SentPacket} {h : Header}

def headerLength (d : SentPacket) : Nat := (Rtp.headerLength? d.text).getD 0

def header (d : SentPacket) : Bytes := d.text.take d.headerLength

def payload (d : SentPacket) : Bytes := d.text.drop d.headerLength

def galoisNonce (d : SentPacket) (salt : Bytes) : Galois.Nonce :=
  Nonce.galoisRtp salt d.ssrc (d.index >>> 16).toUInt32 d.index.toUInt16

theorem headerLength_of_read? (hr : Header.read? d.text = some h) : d.headerLength = h.length := by
  rw [headerLength, Rtp.headerLength?, hr]
  rfl

end SentPacket

def StreamCrypto.payloadBlocks (c : StreamCrypto) (d : SentPacket) : List Block :=
  match c with
  | counterMode _ salt _ => CounterMode.blocks (Nonce.counterMode salt d.ssrc d.index) d.payload.length
  | galois _ salt => Galois.textBlocks (d.galoisNonce salt) d.payload.length

def SessionKeys.headerBlocks (keys : SessionKeys) (ids : List UInt8) (d : SentPacket) : List Block :=
  if (maskedElements ids d.header).isEmpty then []
  else CounterMode.blocks (Nonce.counterMode keys.salt d.ssrc d.index) d.header.length

def StreamCrypto.cipherKey? : StreamCrypto → Option Aes.Key
  | counterMode key _ _ => Aes.Key.ofBytes? key
  | galois key _ => some key

theorem StreamCrypto.Fits.exists_cipherKey {suite : Suite} {n : Nat} {c : StreamCrypto} (hc : c.Fits suite n) :
    ∃ key, c.cipherKey? = some key := by
  cases hc with
  | counterMode hs hk ht => exact Option.isSome_iff_exists.mp hk
  | galois hs ht => exact ⟨_, rfl⟩

namespace SessionCrypto

structure Enciphers (c : SessionCrypto) (ids : List UInt8) (d : SentPacket) (maskKey key : Aes.Key) : Prop where
  maskKey_eq : Aes.Key.ofBytes? c.header.cipherKey = some maskKey
  key_eq : c.rtp.cipherKey? = some key
  header : d.wire.take d.headerLength = maskElements (maskedElements ids d.header)
    ((encipher maskKey (c.header.headerBlocks ids d)).take d.header.length) d.header
  payload : slice d.wire d.headerLength d.text.length =
    xorBytes d.payload ((encipher key (c.rtp.payloadBlocks d)).take d.payload.length)
  tag : ∀ salt, c.rtp = .galois key salt → d.wire.drop d.text.length =
    Galois.tag key (d.galoisNonce salt) (d.wire.take d.headerLength) (slice d.wire d.headerLength d.text.length)

structure Apart (c : SessionCrypto) (ids : List UInt8) (d e : SentPacket) : Prop where
  header : ∀ b ∈ c.header.headerBlocks ids d, b ∉ c.header.headerBlocks ids e
  counterMode : ∀ key salt auth, c.rtp = .counterMode key salt auth → d.payload.length ≤ 0x100000 →
    e.payload.length ≤ 0x100000 → ∀ b ∈ c.rtp.payloadBlocks d, b ∉ c.rtp.payloadBlocks e
  galois : ∀ key salt, c.rtp = .galois key salt → d.galoisNonce salt ≠ e.galoisNonce salt

variable {c : SessionCrypto} {settings : Settings} {d e : SentPacket} {h : Header} {p : Position}

theorem Written.galoisNonce (hw : c.Written settings d h p) (salt : Bytes) :
    d.galoisNonce salt = Nonce.galoisRtp salt h.ssrc p.roc p.seq := by
  rw [SentPacket.galoisNonce, hw.index, Position.roc_index, Position.seq_index, hw.ssrc]

theorem Written.payload_eq (hw : c.Written settings d h p) {key : Aes.Key} (hk : c.rtp.cipherKey? = some key) :
    c.rtp.rtpPayload h.ssrc p d.payload =
      xorBytes d.payload ((encipher key (c.rtp.payloadBlocks d)).take d.payload.length) := by
  have hnonce := hw.galoisNonce
  cases hf : c.rtp with
  | counterMode bytes salt auth =>
    rw [hf] at hk
    rw [StreamCrypto.rtpPayload, CounterMode.crypt_eq_encipher hk, StreamCrypto.payloadBlocks, hw.index, hw.ssrc]
  | galois galoisKey salt =>
    rw [hf] at hk
    obtain rfl : galoisKey = key := Option.some.inj hk
    rw [StreamCrypto.rtpPayload, Galois.apply, Galois.keystream_eq_encipher, StreamCrypto.payloadBlocks, hnonce]

theorem Written.header_eq (hw : c.Written settings d h p) {key : Aes.Key}
    (hk : Aes.Key.ofBytes? c.header.cipherKey = some key) (ids : List UInt8) :
    maskedHeader c.header ids h.ssrc p.index d.header = maskElements (maskedElements ids d.header)
      ((encipher key (c.header.headerBlocks ids d)).take d.header.length) d.header := by
  rw [maskedHeader, SessionKeys.headerBlocks, ← hw.index, hw.ssrc]
  cases he : maskedElements ids d.header with
  | nil => rfl
  | cons first others =>
    rw [headerKeystream, CounterMode.crypt_zeros hk, CounterMode.keystream_eq_encipher]
    rfl

theorem Written.length_header_le (hw : c.Written settings d h p) : d.header.length ≤ 0x100000 := by
  rw [SentPacket.header, d.headerLength_of_read? hw.header, length_take_header hw.header]
  exact Nat.le_of_lt (Header.length_lt hw.header)

theorem Written.enciphers (hw : c.Written settings d h p) (hc : c.Fits) :
    ∃ maskKey key, c.Enciphers settings.encryptedIds d maskKey key := by
  obtain ⟨maskKey, hm⟩ := Option.isSome_iff_exists.mp hc.header
  obtain ⟨key, hk⟩ := hc.rtp.exists_cipherKey
  have hlen := d.headerLength_of_read? hw.header
  have hheader : d.header = d.text.take h.length := by rw [SentPacket.header, hlen]
  have hpayload : d.payload = d.text.drop h.length := by rw [SentPacket.payload, hlen]
  let body := c.rtpCrypt settings.encryptedIds h p d.text
  have hbody : body.length = d.text.length := c.length_rtpCrypt hw.header _ _
  have hcrypt : d.wire.take d.text.length = body := by
    rw [hw.wire]
    exact List.take_left' hbody
  have htake : d.wire.take h.length = body.take h.length := by
    rw [← hcrypt, List.take_take, Nat.min_eq_left (Header.length_le hw.header)]
  have hslice : slice d.wire h.length d.text.length = body.drop h.length := by
    rw [slice, hcrypt]
  refine ⟨maskKey, key, hm, hk, ?_, ?_, ?_⟩
  · rw [hlen, htake, c.take_rtpCrypt hw.header, ← hheader, hw.header_eq hm]
  · rw [hlen, hslice, c.drop_rtpCrypt hw.header, ← hpayload, hw.payload_eq hk]
  · intro salt hf
    rw [hlen, htake, hslice, hw.wire, List.drop_left' hbody, SessionCrypto.rtpTrailer, hf, hw.galoisNonce]
    rfl

theorem Written.apart {h' : Header} {p' : Position} (hd : c.Written settings d h p) (he : c.Written settings e h' p')
    (hbd : d.index.toNat < 0x1000000000000) (hbe : e.index.toNat < 0x1000000000000)
    (hne : d.ssrc = e.ssrc → d.index ≠ e.index) (ids : List UInt8) : c.Apart ids d e := by
  have hnonce (salt : Bytes) :
      Nonce.counterMode salt d.ssrc d.index ≠ Nonce.counterMode salt e.ssrc e.index := by
    intro heq
    obtain ⟨hssrc, hindex⟩ := Nonce.counterMode_inj hbd hbe heq
    exact hne hssrc hindex
  constructor
  · intro b hb hb'
    unfold SessionKeys.headerBlocks at hb hb'
    split at hb
    · cases hb
    · split at hb'
      · cases hb'
      · exact CounterMode.blocks_disjoint (Nonce.toNat_counterMode _ _ _) (Nonce.toNat_counterMode _ _ _) (hnonce _)
          hd.length_header_le he.length_header_le b hb hb'
  · intro key salt auth hf hld hle
    rw [hf]
    exact CounterMode.blocks_disjoint (Nonce.toNat_counterMode _ _ _) (Nonce.toNat_counterMode _ _ _) (hnonce salt)
      hld hle
  · intro key salt _ heq
    rw [hd.galoisNonce, he.galoisNonce] at heq
    obtain ⟨hssrc, hroc, hseq⟩ := Nonce.galoisRtp_inj heq
    apply hne
    · rw [← hd.ssrc, ← he.ssrc, hssrc]
    · rw [hd.index, he.index, Position.index, Position.index, hroc, hseq]

end SessionCrypto

namespace Session

variable {s t : Session} {c : SessionCrypto} {sent : List SentPacket}

theorem pairwise_index_of_ahead (ha : Stepwise Ahead sent) (hright : ∀ d ∈ sent, d.index.toNat = d.number) :
    sent.Pairwise fun d e => d.ssrc = e.ssrc → e.index < d.index := by
  induction sent with
  | nil => exact .nil
  | cons d past ih =>
    obtain ⟨hd, hpast⟩ := List.forall_mem_cons.mp hright
    refine .cons ?_ (ih ha.2 hpast)
    intro e he hssrc
    rw [UInt64.lt_iff_toNat_lt, hd, hpast e he]
    exact lt_of_ahead ha (mem_numbers.mpr ⟨e, he, hssrc.symm, rfl⟩)

/-- A session that sends every packet of a stream less than half a round ahead of the one before gives each a higher
index, and encrypts no two packets, of one stream or of several, with the same part of a keystream. -/
theorem keystream_used_once (hs : s.role = .idle) {suite : Suite} {material : Bytes}
    (hm : SessionCrypto.ofMaterial suite material = .ok c)
    (hsent : (s.configure .send suite material).state.Sends sent t) (hahead : Stepwise Ahead sent)
    (hbound : ∀ d ∈ sent, d.number < 0x1000000000000) :
    (sent.Pairwise fun d e => d.ssrc = e.ssrc → e.index < d.index) ∧
      (∀ d ∈ sent, ∃ maskKey key, c.Enciphers s.settings.encryptedIds d maskKey key) ∧
      sent.Pairwise (c.Apart s.settings.encryptedIds) := by
  have hstate : (s.configure .send suite material).state = { s with role := .sending { crypto := c } } := by
    rw [configure_of_idle hs, hm]
    rfl
  rw [hstate] at hsent
  have hc := (SessionCrypto.fits_of_ofMaterial hm).2
  have hright := (hsent.follows rfl (near_of_ahead hahead) hbound (inRound_of_ahead hahead)).1
  have hwritten := hsent.written rfl hc
  have hindices := pairwise_index_of_ahead hahead hright
  refine ⟨hindices, ?_, ?_⟩
  · intro d hd
    obtain ⟨h, p, hw⟩ := hwritten d hd
    exact hw.enciphers hc
  · apply hindices.imp_of_mem
    intro d e hd he hlt
    obtain ⟨h, p, hwd⟩ := hwritten d hd
    obtain ⟨h', p', hwe⟩ := hwritten e he
    apply hwd.apart hwe
    · rw [hright d hd]
      exact hbound d hd
    · rw [hright e he]
      exact hbound e he
    · intro hssrc heq
      exact UInt64.lt_irrefl _ (heq ▸ hlt hssrc)

def extendedPacket (hi lo : UInt8) : Bytes :=
  [0x90, 0, hi, lo, 0, 0, 0, 0, 0, 0, 0, 1, 0xbe, 0xde, 0, 1, 0x10, 0xaa, 0, 0, 7]

theorem keystream_used_once_at_wrap :
    ∃ c d₁ d₂ t, SessionCrypto.ofMaterial .aesCm128HmacSha1_80 (zeros 30) = .ok c ∧
      (start 1024 [1] .send .aesCm128HmacSha1_80 (zeros 30)).Sends [d₂, d₁] t ∧
      d₁.text = extendedPacket 255 255 ∧ d₂.text = extendedPacket 0 0 ∧ d₁.number = 65535 ∧ d₂.number = 65536 ∧
      c.Apart [1] d₂ d₁ ∧ (c.header.headerBlocks [1] d₁).length = 2 ∧ (c.rtp.payloadBlocks d₁).length = 1 := by
  have hlen : (zeros 30).length = Suite.aesCm128HmacSha1_80.materialLength := rfl
  obtain ⟨c, hm, -, hc⟩ := SessionCrypto.fits_ofMaterial hlen
  have hseals : c.rtp.Seals 20 1 := c.rtp.seals_of_le (by decide) (by decide)
  have hsendable : ∀ q ∈ [(65536, 0, 0), (65535, 255, 255)].map fun p => ((1 : UInt32), p.1, extendedPacket p.2.1 p.2.2),
      ∃ h, Header.read? q.2.2 = some h ∧ h.ssrc = q.1 ∧ h.seq.toNat = q.2.1 % 0x10000 ∧
        c.rtp.Seals h.length (q.2.2.length - h.length) := by
    simp only [List.map_cons, List.map_nil, List.forall_mem_cons]
    exact ⟨⟨⟨0, true, 0, 1, 20⟩, rfl, rfl, rfl, hseals⟩, ⟨⟨0, true, 0xffff, 1, 20⟩, rfl, rfl, rfl, hseals⟩, nofun⟩
  obtain ⟨sent, t, -, hsent, hmap, -⟩ := exists_sends (role_start_send 1024 [1] hm) hc hsendable
  simp only [List.map_cons, List.map_nil, List.map_eq_cons_iff, List.map_eq_nil_iff, Prod.mk.injEq] at hmap
  obtain ⟨d₂, _, rfl, ⟨s₂, n₂, x₂⟩, d₁, _, rfl, ⟨s₁, n₁, x₁⟩, rfl⟩ := hmap
  have hahead : Stepwise Ahead [d₂, d₁] := by
    simp [Stepwise, Ahead, numbers, s₁, s₂, n₁, n₂]
  have hbound : ∀ d ∈ [d₂, d₁], d.number < 0x1000000000000 := by
    simp [n₁, n₂]
  have hidle : ((ofWindow 1024).setEncryptedIds [1]).role = .idle := rfl
  obtain ⟨-, -, hapart⟩ := keystream_used_once hidle hm hsent hahead hbound
  refine ⟨c, d₁, d₂, t, hm, hsent, x₁, x₂, n₁, n₂, (List.pairwise_cons.mp hapart).1 d₁ (by simp), ?_, ?_⟩
  · have hheader : d₁.header = (extendedPacket 255 255).take 20 := by
      rw [SentPacket.header, SentPacket.headerLength, x₁]
      rfl
    rw [SessionKeys.headerBlocks, hheader]
    rfl
  · have hpayload : d₁.payload = [7] := by
      rw [SentPacket.payload, SentPacket.headerLength, x₁]
      rfl
    cases hf : c.rtp with
    | counterMode key salt auth =>
      rw [StreamCrypto.payloadBlocks, hpayload]
      rfl
    | galois key salt =>
      rw [StreamCrypto.payloadBlocks, hpayload]
      rfl

end Session

end SecureRtp
