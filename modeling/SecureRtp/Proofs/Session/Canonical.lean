import SecureRtp.Proofs.Session.Control
import SecureRtp.Proofs.Session.Media
import SecureRtp.Proofs.Session.Run

namespace SecureRtp

open Rtp StreamCrypto

namespace Receiver

variable {r : Receiver} {packet : Bytes}

theorem TakesRtp.take_bytes {h : Header} {body tag : Bytes} (ht : r.TakesRtp packet h body tag) (hc : r.crypto.Fits)
    (settings : Settings) : (r.unprotectRtp settings packet).bytes.take body.length =
      r.crypto.rtpCrypt settings.encryptedIds h (r.position h.ssrc h.seq) body := by
  rw [ht.unprotectRtp hc settings]
  exact List.take_left' (SessionCrypto.length_rtpCrypt _ ht.header _ _)

theorem TakesRtp.rtpId? {h : Header} {body tag : Bytes} (ht : r.TakesRtp packet h body tag) :
    r.rtpId? packet = some (h.ssrc, (r.position h.ssrc h.seq).index) := by
  rw [Receiver.rtpId?, ht.packet_eq, rtpHeader_append ht.header ht.length_tag]

theorem TakesRtp.protectRtp {h : Header} {body tag : Bytes} (ht : r.TakesRtp packet h body tag)
    (hc : r.crypto.Fits) (settings : Settings) {s : Sender} (hs : s.crypto = r.crypto)
    {sending : Settings} (hids : sending.encryptedIds = settings.encryptedIds) (hext : sending.externalAuth = false)
    {spare : Bytes} (hspare : spare.length = r.crypto.suite.rtpTagLength) {n : Nat}
    (hok : (s.protectRtp sending ((r.unprotectRtp settings packet).bytes.take body.length ++ spare)
      body.length).outcome = .ok (n, (r.position h.ssrc h.seq).index)) :
    n = packet.length ∧
      (s.protectRtp sending ((r.unprotectRtp settings packet).bytes.take body.length ++ spare) body.length).bytes =
        packet := by
  have hlen := r.crypto.length_rtpCrypt ht.header settings.encryptedIds (r.position h.ssrc h.seq)
  have hread := r.crypto.read?_rtpCrypt ht.header settings.encryptedIds (r.position h.ssrc h.seq)
  have hdrop : spare.drop r.crypto.suite.rtpTagLength = [] := List.drop_of_length_le (Nat.le_of_eq hspare)
  have hroom : s.crypto.suite.rtpTagLength ≤ spare.length := by
    rw [hs]
    exact Nat.le_of_eq hspare.symm
  rw [ht.take_bytes hc, ← hlen, s.protectRtp_append (hs ▸ hc) sending hread hroom] at hok ⊢
  dsimp only at hok ⊢
  split at hok
  · rename_i hl
    -- Both sides agree on the index, and so on the position.
    have hanswer := Except.ok.inj hok
    have hp : s.nextPosition h.ssrc h.seq = r.position h.ssrc h.seq :=
      Position.index_inj.mp (Prod.mk.inj hanswer).2
    have hn := (Prod.mk.inj hanswer).1
    rw [if_pos hl, ht.packet_eq]
    constructor
    · rw [← hn, hlen, List.length_append, ht.length_tag, hs]
    · simp only [hp, hs, hids, hext, r.crypto.rtpCrypt_rtpCrypt ht.header, hdrop, List.append_nil,
        SessionCrypto.rtpTrailer, rtpTrailer_false]
      exact congrArg (body ++ ·) ht.tag_eq.symm
  · cases hok

theorem TakesRtp.retagged {h : Header} {body tag tag' : Bytes} (ht : r.TakesRtp packet h body tag)
    (hc : r.crypto.Fits) (settings : Settings) (hl : tag'.length = r.crypto.suite.rtpTagLength) (hne : tag' ≠ tag) :
    (r.unprotectRtp settings (body ++ tag')).outcome = .error .authenticationFailed := by
  have hno : ¬(r.crypto.rtp.Opens h.length (body.length - h.length) ∧
      tag' = r.crypto.rtpTag h (r.position h.ssrc h.seq) body) := fun h => hne (h.2.trans ht.tag_eq.symm)
  rw [unprotectRtp_append hc settings ht.header hl]
  dsimp only
  rw [if_pos ht.accepts, if_neg hno]

variable {ssrc : UInt32} {t : ControlTrailer} {header payload tag : Bytes}

theorem TakesRtcp.rtcpStream (ht : r.TakesRtcp packet ssrc t header payload tag) :
    r.rtcpStream packet = .ok ssrc := by
  rw [ht.packet_eq, rtcpStream_append ht.length_header ht.stream ht.length_tag]

theorem TakesRtcp.controlTrailer (ht : r.TakesRtcp packet ssrc t header payload tag) :
    r.crypto.rtcp.controlTrailer packet r.crypto.suite.rtcpTagLength = t := by
  rw [ht.packet_eq, ← ht.length_tag, controlTrailer_eq, ← ht.textEnd_eq]

theorem TakesRtcp.take_bytes (ht : r.TakesRtcp packet ssrc t header payload tag) (hc : r.crypto.Fits)
    (settings : Settings) : (r.unprotectRtcp settings packet).bytes.take t.textEnd =
      header ++ r.crypto.rtcp.openedControl ssrc t payload := by
  rw [ht.unprotectRtcp hc settings, ← List.append_assoc]
  exact List.take_left' (by rw [List.length_append, length_openedControl, ht.textEnd_eq])

theorem TakesRtcp.retagged (ht : r.TakesRtcp packet ssrc t header payload tag) (hc : r.crypto.Fits)
    (settings : Settings) {tag' : Bytes} (hl : tag'.length = r.crypto.suite.rtcpTagLength) (hne : tag' ≠ tag) :
    (r.unprotectRtcp settings
      (header ++ (payload ++ r.crypto.rtcp.rtcpTrailer tag' (beBytes 4 t.word.toNat)))).outcome =
      .error .authenticationFailed := by
  have hnot := ht.not_refused
  obtain ⟨textEnd, word⟩ := t
  obtain ⟨rfl, hh, rfl, -, hs, ha, -, -, htag⟩ := ht
  have hno : ¬(r.crypto.rtcp.Opens (Rtcp.headerLength + controlIndexLength) payload.length ∧
      tag' = r.crypto.rtcp.rtcpTag ssrc (ControlTrailer.mk (header.length + payload.length) word).index header payload
        (beBytes 4 word.toNat)) := fun h => hne (h.2.trans htag.symm)
  rw [unprotectRtcp_append hc settings hh hs hl]
  dsimp only
  rw [if_pos ha, if_neg hnot, if_neg hno]

theorem TakesRtcp.protectRtcp (ht : r.TakesRtcp packet ssrc t header payload tag) (hc : r.crypto.Fits)
    (settings : Settings) (he : t.encrypted = true) {s : Sender} (hs : s.crypto = r.crypto)
    (hindex : s.controlIndex ssrc = t.index) {spare : Bytes}
    (hspare : spare.length = r.crypto.suite.rtcpTagLength + controlIndexLength) :
    let reply := s.protectRtcp ((r.unprotectRtcp settings packet).bytes.take t.textEnd ++ spare) t.textEnd
    (reply.outcome = .ok packet.length ∧ reply.bytes = packet) ∨
      (¬r.crypto.rtcp.Seals (Rtcp.headerLength + controlIndexLength) payload.length ∧
        reply.outcome = .error (.crypto .sealRefused)) := by
  have hword : indexWord t.index = beBytes 4 t.word.toNat :=
    congrArg (fun word => beBytes 4 (UInt32.toNat word)) (ControlTrailer.controlWord_index he)
  have htext : r.crypto.rtcp.openedControl ssrc t payload = r.crypto.rtcp.rtcpPayload ssrc t.index payload := by
    rw [openedControl, if_pos he]
  have hdrop : spare.drop (r.crypto.suite.rtcpTagLength + controlIndexLength) = [] :=
    List.drop_of_length_le (Nat.le_of_eq hspare)
  have hend : t.textEnd = header.length + (r.crypto.rtcp.rtcpPayload ssrc t.index payload).length := by
    rw [length_rtcpPayload, ht.textEnd_eq]
  have hroom : controlIndexLength + s.crypto.suite.rtcpTagLength ≤ spare.length := by
    rw [hs, Nat.add_comm]
    exact Nat.le_of_eq hspare.symm
  rw [ht.take_bytes hc, htext, hend, List.append_assoc,
    s.protectRtcp_append (hs ▸ hc) ht.length_header ht.stream hroom]
  dsimp only
  rw [hs, hindex, length_rtcpPayload]
  by_cases hl : r.crypto.rtcp.Seals (Rtcp.headerLength + controlIndexLength) payload.length
  · rw [if_pos hl]
    apply Or.inl
    constructor
    · simp [ht.packet_eq, ht.length_tag, controlIndexLength]
      omega
    · rw [hdrop, List.append_nil]
      simp only [Sender.rtcpWire, hs, rtcpPayload_rtcpPayload, hword]
      rw [← ht.tag_eq, ← ht.packet_eq]
  · rw [if_neg hl]
    exact Or.inr ⟨hl, rfl⟩

end Receiver

namespace StreamCrypto

def rtcpTagStart (suite : Suite) (length : Nat) : Nat :=
  if suite.isAead then length else length + controlIndexLength

theorem Fits.overwrite_rtcpTrailer {suite : Suite} {n : Nat} {c : StreamCrypto} (hc : c.Fits suite n)
    (header payload : Bytes) {tag tag' : Bytes} (hl : tag'.length = tag.length) (word : UInt32) :
    overwrite (header ++ (payload ++ c.rtcpTrailer tag (beBytes 4 word.toNat)))
        (rtcpTagStart suite (header.length + payload.length)) tag' =
      header ++ (payload ++ c.rtcpTrailer tag' (beBytes 4 word.toNat)) := by
  cases hc with
  | galois hs ht =>
    have hw := overwrite_mid (a := header ++ payload) (c := beBytes 4 word.toNat) rfl hl
    simp only [List.length_append, List.append_assoc] at hw
    rw [rtcpTagStart, if_pos hs]
    exact hw
  | counterMode hs hk ht =>
    have hw := overwrite_mid (a := header ++ (payload ++ beBytes 4 word.toNat)) (c := []) rfl hl
    simp only [List.length_append, List.append_assoc, List.append_nil, length_beBytes, ← Nat.add_assoc] at hw
    rw [rtcpTagStart, if_neg (by simp [hs])]
    exact hw

theorem Fits.of_not_seals {suite : Suite} {n length : Nat} {c : StreamCrypto} (hc : c.Fits suite n)
    (hl : ¬c.Seals (Rtcp.headerLength + controlIndexLength) length) :
    suite.isAead = true ∧ Galois.maxLength < length := by
  cases hc with
  | galois hs ht =>
    refine ⟨hs, ?_⟩
    simp only [Seals, Rtcp.headerLength, controlIndexLength, Galois.maxLength] at hl ⊢
    omega
  | counterMode hs hk ht => exact absurd trivial hl

end StreamCrypto

namespace Session

def controlTrailer? (s : Session) (packet : Bytes) : Option ControlTrailer :=
  match s.role with
  | .receiving r => some (r.crypto.rtcp.controlTrailer packet r.crypto.suite.rtcpTagLength)
  | _ => none

structure Mirrors (S R : Session) (suite : Suite) (material : Bytes) : Prop where
  keyed : S.Keyed .send suite material
  ids : S.settings.encryptedIds = R.settings.encryptedIds
  inline : S.settings.externalAuth = false

structure DeterminesRtp (R : Session) (suite : Suite) (material packet : Bytes) (n : Nat) : Prop where
  resealed : ∃ ssrc index, R.rtpId? packet = some (ssrc, index) ∧
    ∀ S : Session, S.Mirrors R suite material → ∀ (spare : Bytes) (n' : Nat), spare.length = suite.rtpTagLength →
      let reply := S.protectRtp ((R.unprotectRtp packet).bytes.take n ++ spare) n
      reply.outcome = .ok (n', index) → n' = packet.length ∧ reply.bytes = packet
  tag_unique : ∀ tag : Bytes, tag.length = suite.rtpTagLength → overwrite packet n tag ≠ packet →
    (R.unprotectRtp (overwrite packet n tag)).outcome = .error .authenticationFailed

structure DeterminesRtcp (R : Session) (suite : Suite) (material packet : Bytes) (n : Nat) : Prop where
  resealed : ∃ ssrc t, R.rtcpId? packet = some (ssrc, t.index.toUInt64) ∧ R.controlTrailer? packet = some t ∧
    (t.encrypted = true → ∀ (S : Session) (sender : Sender), S.Keyed .send suite material →
      S.role = .sending sender → sender.controlIndex ssrc = t.index →
      ∀ spare : Bytes, spare.length = suite.rtcpTagLength + controlIndexLength →
        let reply := S.protectRtcp ((R.unprotectRtcp packet).bytes.take n ++ spare) n
        (reply.outcome = .ok packet.length ∧ reply.bytes = packet) ∨
          (suite.isAead = true ∧ Rtcp.headerLength + Galois.maxLength < n ∧
            reply.outcome = .error (.crypto .sealRefused))) ∧
    (t.encrypted = false → suite.isAead = false ∧ (R.unprotectRtcp packet).bytes.take n = packet.take n)
  tag_unique : ∀ tag : Bytes, tag.length = suite.rtcpTagLength →
    overwrite packet (rtcpTagStart suite n) tag ≠ packet →
    (R.unprotectRtcp (overwrite packet (rtcpTagStart suite n) tag)).outcome = .error .authenticationFailed

variable {R : Session} {suite : Suite} {material : Bytes}

theorem Keyed.determinesRtp (hR : R.Keyed .recv suite material) {packet : Bytes} {n : Nat}
    (hn : (R.unprotectRtp packet).outcome = .ok n) : R.DeterminesRtp suite material packet n := by
  obtain ⟨r, hr, hm⟩ := hR.receiver
  obtain ⟨hsuite, hc⟩ := SessionCrypto.fits_of_ofMaterial hm
  rw [unprotectRtp_of_receiving hr] at hn
  obtain ⟨h, body, tag, ht, rfl⟩ := Receiver.exists_takesRtp hc hn
  refine ⟨⟨h.ssrc, (r.position h.ssrc h.seq).index, ?_, ?_⟩, ?_⟩
  · rw [Session.rtpId?, hr]
    exact ht.rtpId?
  · intro S hS spare n' hspare reply hok
    obtain ⟨s, hs, hm'⟩ := hS.keyed.sender
    have hcrypto : s.crypto = r.crypto := Except.ok.inj (hm'.symm.trans hm)
    simp only [reply, protectRtp_of_sending hs, unprotectRtp_of_receiving hr] at hok ⊢
    exact ht.protectRtp hc R.settings hcrypto hS.ids hS.inline (hspare.trans (by rw [hsuite])) hok
  · intro tag' hl hne
    have hlen : tag'.length = tag.length := by rw [hl, ht.length_tag, hsuite]
    have hw : overwrite packet body.length tag' = body ++ tag' := by
      have hw := overwrite_mid (a := body) (c := []) rfl hlen
      rwa [List.append_nil, List.append_nil, ← ht.packet_eq] at hw
    rw [hw] at hne ⊢
    rw [unprotectRtp_of_receiving hr]
    apply ht.retagged hc R.settings (hlen.trans ht.length_tag)
    rintro rfl
    exact hne ht.packet_eq.symm

theorem Keyed.determinesRtcp (hR : R.Keyed .recv suite material) {packet : Bytes} {n : Nat}
    (hn : (R.unprotectRtcp packet).outcome = .ok n) : R.DeterminesRtcp suite material packet n := by
  obtain ⟨r, hr, hm⟩ := hR.receiver
  obtain ⟨hsuite, hc⟩ := SessionCrypto.fits_of_ofMaterial hm
  rw [unprotectRtcp_of_receiving hr] at hn
  obtain ⟨ssrc, t, header, payload, tag, ht, rfl⟩ := Receiver.exists_takesRtcp hc hn
  refine ⟨⟨ssrc, t, ?_, ?_, ?_, ?_⟩, ?_⟩
  · rw [Session.rtcpId?, hr]
    simp only [Receiver.rtcpId?, ht.rtcpStream, ht.controlTrailer]
  · simp only [Session.controlTrailer?, hr, ht.controlTrailer]
  · intro he S s hS hs hindex spare hspare reply
    obtain ⟨s', hs', hm'⟩ := hS.sender
    cases hs.symm.trans hs'
    have hcrypto : s.crypto = r.crypto := Except.ok.inj (hm'.symm.trans hm)
    simp only [reply, protectRtcp_of_sending hs, unprotectRtcp_of_receiving hr]
    obtain hok | ⟨hl, hrefused⟩ := ht.protectRtcp hc R.settings he hcrypto hindex (hspare.trans (by rw [hsuite]))
    · exact .inl hok
    · obtain ⟨ha, hmax⟩ := hc.rtcp.of_not_seals hl
      refine .inr ⟨hsuite ▸ ha, ?_, hrefused⟩
      rw [ht.textEnd_eq, ht.length_header]
      omega
  · intro he
    have ha : suite.isAead = false := by
      rw [← hsuite, ← Bool.not_eq_true]
      intro ha
      exact ht.not_refused ⟨ha, he⟩
    refine ⟨ha, ?_⟩
    rw [unprotectRtcp_of_receiving hr]
    apply (ht.take_bytes hc R.settings).trans
    rw [openedControl, if_neg (by simp [he]), ht.packet_eq, ← List.append_assoc]
    exact (List.take_left' (by rw [List.length_append, ht.textEnd_eq])).symm
  · intro tag' hl hne
    have hlen : tag'.length = tag.length := by rw [hl, ht.length_tag, hsuite]
    have hw := hc.rtcp.overwrite_rtcpTrailer header payload hlen t.word
    rw [hsuite, ← ht.textEnd_eq, ← ht.packet_eq] at hw
    rw [hw] at hne ⊢
    rw [unprotectRtcp_of_receiving hr]
    apply ht.retagged hc R.settings (hlen.trans ht.length_tag)
    rintro rfl
    exact hne ht.packet_eq.symm

/-- Whatever a receiving session accepts is the one packet that its keys make of the text and the index, or a
control packet that was never encrypted. -/
theorem accepted_is_canonical (hR : R.Keyed .recv suite material) (packet : Bytes) (n : Nat) :
    ((R.unprotectRtp packet).outcome = .ok n → R.DeterminesRtp suite material packet n) ∧
      ((R.unprotectRtcp packet).outcome = .ok n → R.DeterminesRtcp suite material packet n) :=
  ⟨hR.determinesRtp, hR.determinesRtcp⟩

theorem eq_ok_of_toOption {α : Type} {outcome : Except Error α} {a : α} (h : outcome.toOption = some a) :
    outcome = .ok a := by
  cases outcome with
  | error e => cases h
  | ok b => exact congrArg Except.ok (Option.some.inj h)

def mediaPacket : Bytes :=
  [128, 0, 255, 255, 0, 0, 0, 0, 0, 0, 0, 1, 173, 130, 110, 212, 111, 194, 50, 92, 188, 169, 47]

def controlPacket : Bytes :=
  [128, 200, 0, 1, 0, 0, 0, 1, 243, 128, 0, 0, 0, 66, 48, 184, 215, 101, 108, 56, 20, 142, 212]

theorem accepts_mediaPacket :
    ((start 64 [] .recv .aesCm128HmacSha1_80 (zeros 30)).unprotectRtp mediaPacket).outcome.toOption = some 13 := by
  decide +kernel

theorem accepts_controlPacket :
    ((start 64 [] .recv .aesCm128HmacSha1_80 (zeros 30)).unprotectRtcp controlPacket).outcome.toOption = some 9 := by
  decide +kernel

theorem accepted_packets_are_canonical :
    (start 64 [] .recv .aesCm128HmacSha1_80 (zeros 30)).DeterminesRtp .aesCm128HmacSha1_80 (zeros 30) mediaPacket 13 ∧
      (start 64 [] .recv .aesCm128HmacSha1_80 (zeros 30)).DeterminesRtcp .aesCm128HmacSha1_80 (zeros 30)
        controlPacket 9 := by
  have hlength : (zeros 30).length = Suite.aesCm128HmacSha1_80.materialLength := rfl
  have hkeyed := keyed_start 64 [] .recv hlength
  constructor
  · apply (accepted_is_canonical hkeyed mediaPacket 13).1
    exact eq_ok_of_toOption accepts_mediaPacket
  · apply (accepted_is_canonical hkeyed controlPacket 9).2
    exact eq_ok_of_toOption accepts_controlPacket

end Session

end SecureRtp
