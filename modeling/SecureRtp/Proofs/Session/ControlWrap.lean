import SecureRtp.Proofs.Session.ControlDelivery
import SecureRtp.Proofs.Session.Nonce

namespace SecureRtp

open StreamCrypto

namespace SentControl

def index (d : SentControl) : UInt32 := UInt32.ofNat (d.number % 0x80000000)

theorem toNat_index (d : SentControl) : d.index.toNat = d.number % 0x80000000 := by
  rw [index, UInt32.toNat_ofNat']
  omega

variable {d e : SentControl}

theorem index_eq_iff (h : e.number ≤ d.number) :
    d.index = e.index ↔ (d.number - e.number) % 0x80000000 = 0 := by
  rw [← UInt32.toNat_inj, toNat_index, toNat_index]
  omega

end SentControl

def StreamCrypto.controlNonce (c : StreamCrypto) (d : SentControl) : Block ⊕ Galois.Nonce :=
  match c with
  | counterMode _ salt _ => .inl (Nonce.counterMode salt d.ssrc d.index.toUInt64)
  | galois _ salt => .inr (Nonce.galoisRtcp salt d.ssrc d.index)

variable {c : SessionCrypto} {d e : SentControl} {header payload : Bytes}

theorem SentControl.and_mask_index (d : SentControl) : d.index &&& controlIndexMask = d.index := by
  apply UInt32.toNat_inj.mp
  rw [toNat_and_controlIndexMask, SentControl.toNat_index]
  omega

theorem StreamCrypto.controlNonce_eq_iff (c : StreamCrypto) (hs : d.ssrc = e.ssrc) :
    c.controlNonce d = c.controlNonce e ↔ d.index = e.index := by
  constructor
  · intro h
    cases c with
    | counterMode key salt auth =>
      have hd := d.index.toNat_lt
      have he := e.index.toNat_lt
      obtain ⟨-, hindex⟩ := Nonce.counterMode_inj (by rw [UInt32.toNat_toUInt64]; omega)
        (by rw [UInt32.toNat_toUInt64]; omega) (Sum.inl.inj h)
      exact UInt32.toUInt64_inj.mp hindex
    | galois key salt =>
      obtain ⟨-, hindex⟩ := Nonce.galoisRtcp_inj (Sum.inr.inj h)
      exact (d.and_mask_index.symm.trans hindex).trans e.and_mask_index
  · intro h
    cases c with
    | counterMode key salt auth => rw [controlNonce, controlNonce, hs, h]
    | galois key salt => rw [controlNonce, controlNonce, hs, h]

theorem indexWord_inj {i j : UInt32} (hi : i.toNat < 0x80000000) (hj : j.toNat < 0x80000000) :
    indexWord i = indexWord j ↔ i = j := by
  constructor
  case mpr => exact congrArg indexWord
  intro h
  have hword : controlWord i = controlWord j := by
    calc controlWord i = UInt32.ofNat (beNat (indexWord i)) := (ofNat_beNat_beBytes _).symm
      _ = UInt32.ofNat (beNat (indexWord j)) := by rw [h]
      _ = controlWord j := ofNat_beNat_beBytes _
  have hn := congrArg UInt32.toNat hword
  rw [toNat_controlWord, toNat_controlWord] at hn
  exact UInt32.toNat_inj.mp (by omega)

theorem SessionCrypto.SealedControl.index_eq {index : UInt32} (hd : c.SealedControl d index header payload) :
    index = d.index := by
  apply UInt32.toNat_inj.mp
  rw [hd.number, d.toNat_index]

theorem Numbered.pairwise_lt {sent : List SentControl} (hn : Numbered sent) :
    sent.Pairwise fun d e => d.ssrc = e.ssrc → e.number < d.number := by
  induction sent with
  | nil => exact .nil
  | cons d past ih =>
    refine .cons ?_ (ih hn.2)
    intro e he hssrc
    rw [hn.1, hssrc]
    exact hn.2.lt_countOf he

theorem Sender.outcome_protectRtcp {s t : Sender} (h : s.crypto = t.crypto) (hc : s.crypto.Fits) (buffer : Bytes)
    (length : Nat) : (s.protectRtcp buffer length).outcome = (t.protectRtcp buffer length).outcome := by
  have hstream : s.rtcpStream buffer length = t.rtcpStream buffer length := by
    rw [rtcpStream, rtcpStream, h]
  cases hs : s.rtcpStream buffer length with
  | error e => rw [protectRtcp, protectRtcp, ← hstream, hs]
  | ok ssrc =>
    obtain ⟨header, payload, spare, rfl, hh, rfl, hroom, hssrc⟩ := exists_of_rtcpStream hs
    rw [protectRtcp_append hc hh hssrc hroom, protectRtcp_append (h ▸ hc) hh hssrc (h ▸ hroom), h]
    dsimp only
    split <;> rfl

namespace Session

variable {s : Session}

theorem forms_sentControls (hs : s.role = .sending { crypto := c }) (hc : c.Fits) (calls : List Call) :
    ∀ d ∈ s.sentControls calls, d.word c.suite = indexWord d.index ∧
      ∃ header payload, c.SealedControl d d.index header payload := by
  intro d hd
  obtain ⟨index, header, payload, hform⟩ := (sealed_sentControls hs hc calls).2 d hd
  obtain rfl := hform.index_eq
  exact ⟨hform.word hc, header, payload, hform⟩

/-- Two control packets of a stream have the same index word, and the same nonce, just if a multiple of `2 ^ 31`
packets lies between their numbers. The session takes no notice: it sends what it sent when it was new. -/
theorem control_word_again_iff (hs : s.role = .idle) {suite : Suite} {material : Bytes}
    (hm : SessionCrypto.ofMaterial suite material = .ok c) (calls : List Call) :
    let t := (s.configure .send suite material).state
    let sent := t.sentControls calls
    Numbered sent ∧
      (∀ d ∈ sent, d.word suite = indexWord d.index ∧ ∃ header payload, c.SealedControl d d.index header payload) ∧
      (sent.Pairwise fun d e => d.ssrc = e.ssrc → e.number < d.number ∧
        (d.word suite = e.word suite ↔ (d.number - e.number) % 0x80000000 = 0) ∧
        (c.rtcp.controlNonce d = c.rtcp.controlNonce e ↔ (d.number - e.number) % 0x80000000 = 0)) ∧
      ∀ buffer length, ((t.after calls).protectRtcp buffer length).outcome = (t.protectRtcp buffer length).outcome := by
  intro t sent
  obtain ⟨rfl, hc⟩ := SessionCrypto.fits_of_ofMaterial hm
  have hrole : t.role = .sending { crypto := c } := by
    simp only [t, configure_of_idle hs, hm]
    rfl
  have hnumbered : Numbered sent := numbered_sentControls t calls
  have hforms := forms_sentControls hrole hc calls
  have hbound (d : SentControl) : d.index.toNat < 0x80000000 := by
    rw [d.toNat_index]
    omega
  refine ⟨hnumbered, hforms, ?_, ?_⟩
  · apply hnumbered.pairwise_lt.imp_of_mem
    intro d e hd he hlt hssrc
    have hle := Nat.le_of_lt (hlt hssrc)
    refine ⟨hlt hssrc, ?_, ?_⟩
    · rw [(hforms d hd).1, (hforms e he).1, indexWord_inj (hbound d) (hbound e), SentControl.index_eq_iff hle]
    · rw [c.rtcp.controlNonce_eq_iff hssrc, SentControl.index_eq_iff hle]
  · intro buffer length
    obtain ⟨sender, hsender⟩ := (sealed_sentControls hrole hc calls).1
    rw [protectRtcp_of_sending hsender.role, protectRtcp_of_sending hrole]
    exact Sender.outcome_protectRtcp hsender.crypto (hsender.crypto ▸ hc) buffer length

theorem control_words_of_two_reports :
    ∃ c first second, SessionCrypto.ofMaterial .aesCm128HmacSha1_80 (zeros 30) = .ok c ∧
      (start 1024 [] .send .aesCm128HmacSha1_80 (zeros 30)).sentControls reportCalls = [second, first] ∧
      first.ssrc = second.ssrc ∧ second.word .aesCm128HmacSha1_80 ≠ first.word .aesCm128HmacSha1_80 ∧
      c.rtcp.controlNonce second ≠ c.rtcp.controlNonce first := by
  have hlen : (zeros 30).length = Suite.aesCm128HmacSha1_80.materialLength := rfl
  obtain ⟨c, hm, hsuite, hc⟩ := SessionCrypto.fits_ofMaterial hlen
  obtain ⟨first, second, hsent, s₁, s₂, n₁, n₂, -⟩ :=
    exists_sentControls_reportCalls (role_start_send 1024 [] hm) hc hsuite
  have hidle : ((ofWindow 1024).setEncryptedIds []).role = .idle := rfl
  obtain ⟨-, -, hpairs, -⟩ := control_word_again_iff hidle hm reportCalls
  change ((start 1024 [] .send .aesCm128HmacSha1_80 (zeros 30)).sentControls reportCalls).Pairwise _ at hpairs
  rw [hsent, List.pairwise_cons] at hpairs
  have hssrc : second.ssrc = first.ssrc := by rw [s₁, s₂]
  obtain ⟨-, hword, hnonce⟩ := hpairs.1 first (by simp) hssrc
  rw [n₁, n₂] at hword hnonce
  exact ⟨c, first, second, hm, hsent, hssrc.symm, mt hword.mp (by decide), mt hnonce.mp (by decide)⟩

theorem countOf_sentControls_replicate (hs : s.role = .sending { crypto := c }) (hc : c.Fits)
    (hsuite : c.suite = .aesCm128HmacSha1_80) (n : Nat) :
    countOf 1 (s.sentControls (List.replicate n bareReportCall)) = n := by
  induction n with
  | zero => rfl
  | succ n ih =>
    obtain ⟨wire, hcons⟩ := exists_sentControls_bareReport hs hc hsuite (List.replicate n bareReportCall)
    rw [List.replicate_succ, hcons, ih]
    exact (countOf_cons_self ⟨1, n, bareReport, wire⟩ _).trans (congrArg (· + 1) ih)

theorem exists_first_sentControls_replicate (hs : s.role = .sending { crypto := c }) (hc : c.Fits)
    (hsuite : c.suite = .aesCm128HmacSha1_80) (n : Nat) :
    ∃ first ∈ s.sentControls (List.replicate (n + 1) bareReportCall), first.ssrc = 1 ∧ first.number = 0 := by
  induction n with
  | zero =>
    obtain ⟨wire, hcons⟩ := exists_sentControls_bareReport hs hc hsuite []
    exact ⟨_, hcons ▸ List.mem_cons_self, rfl, rfl⟩
  | succ n ih =>
    obtain ⟨wire, hcons⟩ := exists_sentControls_bareReport hs hc hsuite (List.replicate (n + 1) bareReportCall)
    obtain ⟨first, hfirst, hssrc, hnumber⟩ := ih
    rw [List.replicate_succ, hcons]
    exact ⟨first, List.mem_cons_of_mem _ hfirst, hssrc, hnumber⟩

theorem exists_last_sentControls_replicate (hs : s.role = .sending { crypto := c }) (hc : c.Fits)
    (hsuite : c.suite = .aesCm128HmacSha1_80) (n : Nat) :
    ∃ last ∈ s.sentControls (List.replicate (n + 1) bareReportCall), last.ssrc = 1 ∧ last.number = n := by
  obtain ⟨wire, hcons⟩ := exists_sentControls_bareReport hs hc hsuite (List.replicate n bareReportCall)
  rw [List.replicate_succ, hcons]
  exact ⟨_, List.mem_cons_self, rfl, countOf_sentControls_replicate hs hc hsuite n⟩

theorem control_word_of_first_report_again :
    ∃ c first last, SessionCrypto.ofMaterial .aesCm128HmacSha1_80 (zeros 30) = .ok c ∧
      (let sent := (start 1024 [] .send .aesCm128HmacSha1_80 (zeros 30)).sentControls
        (List.replicate (0x80000000 + 1) bareReportCall)
      first ∈ sent ∧ last ∈ sent) ∧
      first.ssrc = last.ssrc ∧ first.number = 0 ∧ last.number = 0x80000000 ∧
      last.word .aesCm128HmacSha1_80 = first.word .aesCm128HmacSha1_80 ∧
      c.rtcp.controlNonce last = c.rtcp.controlNonce first := by
  have hlen : (zeros 30).length = Suite.aesCm128HmacSha1_80.materialLength := rfl
  obtain ⟨c, hm, hsuite, hc⟩ := SessionCrypto.fits_ofMaterial hlen
  have hrole := role_start_send 1024 [] hm
  obtain ⟨first, hfirst, s₁, n₁⟩ := exists_first_sentControls_replicate hrole hc hsuite 0x80000000
  obtain ⟨last, hlast, s₂, n₂⟩ := exists_last_sentControls_replicate hrole hc hsuite 0x80000000
  have hssrc : last.ssrc = first.ssrc := by rw [s₁, s₂]
  have hindex : last.index = first.index := by
    rw [SentControl.index, SentControl.index, n₁, n₂]
  have hforms := forms_sentControls hrole hc (List.replicate (0x80000000 + 1) bareReportCall)
  rw [hsuite] at hforms
  refine ⟨c, first, last, hm, ⟨hfirst, hlast⟩, hssrc.symm, n₁, n₂, ?_, ?_⟩
  · rw [(hforms last hlast).1, (hforms first hfirst).1, hindex]
  · exact (c.rtcp.controlNonce_eq_iff hssrc).mpr hindex

end Session

end SecureRtp
