import SecureRtp.Proofs.Session.Numbering

namespace SecureRtp

open Rtp
open Session (Sends)

variable {sent past : List SentPacket} {d : SentPacket}

theorem max?_numbers_of_ahead (ha : Stepwise Ahead sent) (ssrc : UInt32) :
    (numbers ssrc sent).max? = (numbers ssrc sent).head? := by
  induction sent with
  | nil => rfl
  | cons d past ih =>
    have hpast := ih ha.2
    by_cases h : d.ssrc = ssrc
    · subst h
      have hd := ha.1
      rw [numbers_cons_self, List.max?_cons, hpast, List.head?_cons]
      unfold Ahead at hd
      cases hlast : (numbers d.ssrc past).head? with
      | none => rfl
      | some last =>
        rw [hlast] at hd
        dsimp only [Option.elim] at hd ⊢
        exact congrArg some (Nat.max_eq_left (Nat.le_of_lt hd.1))
    · rw [numbers_cons_of_ne h]
      exact hpast

theorem lt_of_ahead (ha : Stepwise Ahead (d :: past)) {n : Nat} (hn : n ∈ numbers d.ssrc past) : n < d.number := by
  have hmax := max?_numbers_of_ahead ha.2 d.ssrc
  have hd := ha.1
  unfold Ahead at hd
  cases hlast : (numbers d.ssrc past).head? with
  | none => simp [List.head?_eq_none_iff.mp hlast] at hn
  | some last =>
    rw [hlast] at hmax hd
    have hle := (List.max?_eq_some_iff.mp hmax).2 n hn
    omega

theorem near_of_ahead (ha : Stepwise Ahead sent) : Stepwise Near sent := by
  induction sent with
  | nil => trivial
  | cons d past ih =>
    constructor
    case right => exact ih ha.2
    have hmax := max?_numbers_of_ahead ha.2 d.ssrc
    have hd := ha.1
    unfold Ahead at hd
    unfold Near
    rw [hmax]
    cases hlast : (numbers d.ssrc past).head? with
    | none => rwa [hlast] at hd
    | some last =>
      rw [hlast] at hd
      dsimp only at hd ⊢
      omega

theorem inRound_of_ahead (ha : Stepwise Ahead sent) : Stepwise InRound sent := by
  induction sent with
  | nil => trivial
  | cons d past ih =>
    constructor
    · intro n hn
      have := lt_of_ahead ha hn
      omega
    · exact ih ha.2

theorem eq_of_number_eq (ha : Stepwise Ahead sent) {e : SentPacket} (hd : d ∈ sent) (he : e ∈ sent)
    (hs : d.ssrc = e.ssrc) (hn : d.number = e.number) : d = e := by
  induction sent with
  | nil => cases hd
  | cons f past ih =>
    rcases List.mem_cons.mp hd with rfl | hd'
    · rcases List.mem_cons.mp he with rfl | he'
      · rfl
      · have := lt_of_ahead ha (mem_numbers.mpr ⟨e, he', hs.symm, rfl⟩)
        omega
    · rcases List.mem_cons.mp he with rfl | he'
      · have := lt_of_ahead ha (mem_numbers.mpr ⟨d, hd', hs, rfl⟩)
        omega
      · exact ih ha.2 hd' he'

structure SessionCrypto.Written (c : SessionCrypto) (settings : Settings) (d : SentPacket) (h : Header)
    (p : Position) : Prop where
  header : Header.read? d.text = some h
  ssrc : h.ssrc = d.ssrc
  seq : h.seq.toNat = d.number % 0x10000
  index : d.index = p.index
  seals : c.rtp.Seals h.length (d.text.length - h.length)
  wire : d.wire = c.rtpCrypt settings.encryptedIds h p d.text ++
    c.rtpTrailer settings.externalAuth h p (c.rtpCrypt settings.encryptedIds h p d.text)

structure SessionCrypto.Sealed (c : SessionCrypto) (ids : List UInt8) (d : SentPacket) (h : Header) (p : Position) :
    Prop where
  header : Header.read? d.text = some h
  ssrc : h.ssrc = d.ssrc
  seq : h.seq.toNat = d.number % 0x10000
  index : d.index = p.index
  number : d.index.toNat = d.number
  seals : c.rtp.Seals h.length (d.text.length - h.length)
  wire : d.wire = c.rtpCrypt ids h p d.text ++ c.rtpTag h p (c.rtpCrypt ids h p d.text)

theorem SessionCrypto.Written.sealed {c : SessionCrypto} {settings : Settings} {h : Header} {p : Position}
    (hw : c.Written settings d h p) (hext : settings.externalAuth = false) (hd : d.index.toNat = d.number) :
    c.Sealed settings.encryptedIds d h p := by
  refine ⟨hw.header, hw.ssrc, hw.seq, hw.index, hd, hw.seals, ?_⟩
  rw [hw.wire, hext, SessionCrypto.rtpTrailer, StreamCrypto.rtpTrailer_false]
  rfl

namespace Session

variable {s t : Session} {c : SessionCrypto}

theorem Sends.sameSetup (hs : s.Sends sent t) : s.SameSetup t := by
  induction hs with
  | nil => exact .refl s
  | cons past last ih =>
    rename_i t u d
    obtain ⟨h, spare, length, -, -, -, -, -, rfl⟩ := last
    have hstep := sameSetup_protectRtp t (d.text ++ spare) d.text.length
    exact ⟨hstep.direction.trans ih.direction, hstep.crypto.trans ih.crypto, hstep.settings.trans ih.settings⟩

theorem Protects.written (hp : s.Protects d t) (hk : s.role.crypto? = some c) (hc : c.Fits) :
    ∃ h p, c.Written s.settings d h p := by
  obtain ⟨sender, seq, hr, -, -, -⟩ := hp.step
  obtain ⟨h, spare, length, header, ssrc, seq, outcome, wire, -⟩ := hp
  rw [hr] at hk
  cases hk
  rw [protectRtp_of_sending hr] at outcome wire
  obtain ⟨h', text, spare', hs⟩ := Sender.exists_sendsRtp hc outcome
  obtain ⟨rfl, -⟩ : d.text = text ∧ spare = spare' := List.append_inj hs.buffer_eq hs.length_text.symm
  cases header.symm.trans hs.header
  have hreply := hs.protectRtp hc s.settings
  simp only [PacketReply.mapState, hreply] at outcome wire
  have hanswer := Prod.mk.inj (Except.ok.inj outcome)
  refine ⟨h, sender.nextPosition h.ssrc h.seq, header, ssrc, seq, hanswer.2.symm, hs.seals, ?_⟩
  rw [← wire, ← hanswer.1, ← List.append_assoc]
  apply List.take_left'
  rw [List.length_append, sender.crypto.length_rtpCrypt header]
  exact congrArg _ (hc.rtp.length_rtpTrailer _ _ _ _ _)

theorem Sends.written (hs : s.Sends sent t) (hk : s.role.crypto? = some c) (hc : c.Fits) :
    ∀ d ∈ sent, ∃ h p, c.Written s.settings d h p := by
  induction hs with
  | nil => nofun
  | cons past last ih =>
    rename_i past' t' u d
    have hsame := Sends.sameSetup past
    have hd := last.written (hsame.crypto.trans hk) hc
    rw [hsame.settings] at hd
    exact List.forall_mem_cons.mpr ⟨hd, ih⟩

theorem Sends.sealed (hs : s.Sends sent t) (hk : s.role.crypto? = some c) (hc : c.Fits)
    (hext : s.settings.externalAuth = false) (hright : ∀ d ∈ sent, d.index.toNat = d.number) :
    ∀ d ∈ sent, ∃ h p, c.Sealed s.settings.encryptedIds d h p := by
  intro d hd
  obtain ⟨h, p, hw⟩ := hs.written hk hc d hd
  exact ⟨h, p, hw.sealed hext (hright d hd)⟩

end Session

namespace Receiver

variable {r : Receiver} {h : Header} {p : Position}

theorem unprotectRtp_sealed (hc : r.crypto.Fits) {settings : Settings}
    (hd : r.crypto.Sealed settings.encryptedIds d h p) (hp : r.position h.ssrc h.seq = p) :
    r.unprotectRtp settings d.wire =
      if r.acceptsRtp d.ssrc d.index then
        ⟨⟨.ok d.text.length, r.recordRtp settings.replayWindow d.ssrc p, [.rtpUnprotected d.ssrc h.seq d.index]⟩,
          d.text ++ r.crypto.rtpTag h p (r.crypto.rtpCrypt settings.encryptedIds h p d.text)⟩
      else ⟨⟨.error (.replayDetected d.index), r, [.rtpReplayed d.ssrc d.index]⟩, d.wire⟩ := by
  have hread := r.crypto.read?_rtpCrypt hd.header settings.encryptedIds p
  have hlen := r.crypto.length_rtpCrypt hd.header settings.encryptedIds p
  have hok : r.crypto.rtp.Opens h.length ((r.crypto.rtpCrypt settings.encryptedIds h p d.text).length - h.length) ∧
      r.crypto.rtpTag h p (r.crypto.rtpCrypt settings.encryptedIds h p d.text) =
        r.crypto.rtpTag h p (r.crypto.rtpCrypt settings.encryptedIds h p d.text) := by
    rw [hlen]
    exact ⟨hd.seals.opens, rfl⟩
  rw [hd.wire, unprotectRtp_append hc settings hread (SessionCrypto.length_rtpTag hc _ _ _), hp, hd.ssrc]
  dsimp only
  rw [← hd.index, if_pos hok, hlen, r.crypto.rtpCrypt_rtpCrypt hd.header]

def sentIds (packets : List SentPacket) : List (UInt32 × UInt64) := packets.map fun d => (d.ssrc, d.index)

theorem mem_sentIds {ssrc : UInt32} {i : UInt64} :
    (ssrc, i) ∈ sentIds past ↔ ∃ e ∈ past, e.ssrc = ssrc ∧ e.index = i := by
  simp [sentIds]

theorem toNat_index_position {replayWindow : UInt64} {rtcp : List (UInt32 × UInt64)}
    (hm : r.Remembers replayWindow (sentIds past) rtcp)
    (hpast : ∀ e ∈ past, e.index.toNat = e.number) (hn : Near past d) (hb : d.number < 0x1000000000000)
    {seq : UInt16} (hseq : seq.toNat = d.number % 0x10000) :
    (r.position d.ssrc seq).index.toNat = d.number := by
  unfold position
  unfold Near at hn
  cases hs : r.streams[d.ssrc]? with
  | none =>
    have hnil : numbers d.ssrc past = [] := by
      rw [List.eq_nil_iff_forall_not_mem]
      intro n hn
      obtain ⟨e, he, hssrc, -⟩ := mem_numbers.mp hn
      exact hm.not_mem_of_none hs e.index (mem_sentIds.mpr ⟨e, he, hssrc, rfl⟩)
    rw [hnil] at hn
    dsimp only [List.max?] at hn ⊢
    rw [Position.toNat_index_mk, UInt32.toNat_zero, hseq]
    omega
  | some stream =>
    obtain ⟨hmem, hmax⟩ := hm.highest_mem hs
    have hhighest : (numbers d.ssrc past).max? = some stream.highest.index.toNat := by
      rw [List.max?_eq_some_iff]
      constructor
      · obtain ⟨e, he, hssrc, hindex⟩ := mem_sentIds.mp hmem
        exact mem_numbers.mpr ⟨e, he, hssrc, by rw [← hpast e he, hindex]⟩
      · intro n hn
        obtain ⟨e, he, hssrc, rfl⟩ := mem_numbers.mp hn
        rw [← hpast e he]
        exact hmax e.index (mem_sentIds.mpr ⟨e, he, hssrc, rfl⟩)
    rw [hhighest] at hn
    exact Position.toNat_index_estimate hb hseq hn.1 hn.2

end Receiver

namespace Session

variable {s : Session} {c : SessionCrypto}

def deliveries (packets : List SentPacket) : List Call := packets.map fun d => .unprotectRtp d.wire

structure Received (s : Session) (c : SessionCrypto) (settings : Settings) (past : List SentPacket) (r : Receiver) :
    Prop where
  role : s.role = .receiving r
  settings_eq : s.settings = settings
  crypto : r.crypto = c
  remembers : r.Remembers settings.replayWindow (Receiver.sentIds past) []

theorem Received.unprotectRtp {settings : Settings} {r : Receiver} (hs : s.Received c settings past r) (hc : c.Fits)
    {h : Header} {p : Position} (hd : c.Sealed settings.encryptedIds d h p)
    (hpast : ∀ e ∈ past, e.index.toNat = e.number) (hn : Near past d) (hb : d.number < 0x1000000000000) :
    (if r.acceptsRtp d.ssrc d.index then
      (s.unprotectRtp d.wire).outcome = .ok d.text.length ∧ (s.unprotectRtp d.wire).bytes.take d.text.length = d.text
    else (s.unprotectRtp d.wire).outcome = .error (.replayDetected d.index)) ∧
      ∃ r', (s.unprotectRtp d.wire).state.Received c settings (d :: past) r' := by
  obtain ⟨hrole, rfl, rfl, hm⟩ := hs
  have hp : r.position h.ssrc h.seq = p := by
    apply Position.index_inj.mp
    apply UInt64.toNat_inj.mp
    rw [← hd.index, hd.number, hd.ssrc]
    exact Receiver.toNat_index_position hm hpast hn hb hd.seq
  have hreply := unprotectRtp_of_receiving hrole d.wire
  rw [Receiver.unprotectRtp_sealed hc hd hp] at hreply
  rw [hreply]
  by_cases ha : r.acceptsRtp d.ssrc d.index = true
  · simp only [if_pos ha]
    refine ⟨⟨rfl, List.take_left⟩, _, rfl, rfl, rfl, ?_⟩
    have hrecord := hm.recordRtp d.ssrc p
    rw [← hd.index] at hrecord
    exact hrecord
  · simp only [if_neg ha]
    exact ⟨rfl, r, rfl, rfl, rfl, hm.of_refusedRtp (by simpa using ha)⟩

theorem received_deliveries {settings : Settings} (hs : s.role = .receiving { crypto := c })
    (hsettings : s.settings = settings) (hc : c.Fits)
    (hd : ∀ d ∈ past, (∃ h p, c.Sealed settings.encryptedIds d h p) ∧ d.number < 0x1000000000000)
    (hn : Stepwise Near past) : ∃ r, (s.after (deliveries past)).Received c settings past r := by
  induction past with
  | nil => exact ⟨_, hs, hsettings, rfl, Receiver.remembers_nil _ _⟩
  | cons d past ih =>
    obtain ⟨⟨⟨h, p, hsealed⟩, hb⟩, hpast⟩ := List.forall_mem_cons.mp hd
    obtain ⟨r, hr⟩ := ih hpast hn.2
    have hright : ∀ e ∈ past, e.index.toNat = e.number := by
      intro e he
      obtain ⟨⟨_, _, hsealed⟩, -⟩ := hpast e he
      exact hsealed.number
    exact (hr.unprotectRtp hc hsealed hright hn.1 hb).2

theorem ofMaterial_of_start {replayWindow : UInt64} {ids : List UInt8} {direction : Direction} {suite : Suite}
    {material : Bytes} (hs : (start replayWindow ids direction suite material).role ≠ .idle) :
    ∃ c, SessionCrypto.ofMaterial suite material = .ok c := by
  cases hm : SessionCrypto.ofMaterial suite material with
  | ok c => exact ⟨c, rfl⟩
  | error e =>
    apply absurd _ hs
    simp only [start, configure, setEncryptedIds, ofWindow, Role.direction?, hm]

theorem Received.acceptsRtp_iff {settings : Settings} {r : Receiver} (hs : s.Received c settings past r)
    (ha : Stepwise Ahead sent) (hright : ∀ e ∈ sent, e.index.toNat = e.number) (hfrom : ∀ e ∈ d :: past, e ∈ sent) :
    r.acceptsRtp d.ssrc d.index = true ↔
      d ∉ past ∧ ∀ e ∈ past, e.ssrc = d.ssrc →
        e.number < d.number + (Replay.Window.clamp settings.replayWindow).toNat := by
  obtain ⟨hd, hpast⟩ := List.forall_mem_cons.mp hfrom
  have hmem : (d.ssrc, d.index) ∈ Receiver.sentIds past ↔ d ∈ past := by
    rw [Receiver.mem_sentIds]
    constructor
    · rintro ⟨e, he, hssrc, hindex⟩
      have hnumber : d.number = e.number := by rw [← hright d hd, ← hright e (hpast e he), hindex]
      rwa [eq_of_number_eq ha hd (hpast e he) hssrc.symm hnumber]
    · intro hd
      exact ⟨d, hd, rfl, rfl⟩
  rw [hs.remembers.acceptsRtp_iff, hright d hd, hmem]
  apply and_congr_right
  intro _
  constructor
  · intro hall e he hssrc
    rw [← hright e (hpast e he)]
    exact hall e.index (Receiver.mem_sentIds.mpr ⟨e, he, hssrc, rfl⟩)
  · intro hall j hj
    obtain ⟨e, he, hssrc, rfl⟩ := Receiver.mem_sentIds.mp hj
    rw [hright e (hpast e he)]
    exact hall e he hssrc

/-- A sender and a receiver are set up alike. Each stream is sent with every packet less than half a round ahead of
the one before, and delivered in any order with every packet less than half a round from the highest so far. Then
every packet has its true index, and is taken, with its text, just if it is new and in the window. -/
theorem delivered_media_iff {replayWindow : UInt64} {ids : List UInt8} {suite : Suite} {material : Bytes}
    {sent : List SentPacket} {t : Session} (hsent : (start replayWindow ids .send suite material).Sends sent t)
    (hahead : Stepwise Ahead sent) (hbound : ∀ d ∈ sent, d.number < 0x1000000000000)
    {d : SentPacket} {past : List SentPacket} (hfrom : ∀ e ∈ d :: past, e ∈ sent) (hnear : Stepwise Near (d :: past)) :
    let s := (start replayWindow ids .recv suite material).after (deliveries past)
    d.index.toNat = d.number ∧
      if d ∉ past ∧ ∀ e ∈ past, e.ssrc = d.ssrc →
          e.number < d.number + (Replay.Window.clamp replayWindow).toNat then
        (s.unprotectRtp d.wire).outcome = .ok d.text.length ∧
          (s.unprotectRtp d.wire).bytes.take d.text.length = d.text
      else (s.unprotectRtp d.wire).outcome = .error (.replayDetected d.index) := by
  intro s
  obtain ⟨hd, hpast⟩ := List.forall_mem_cons.mp hfrom
  obtain ⟨sender, hrole⟩ := hsent.role (List.ne_nil_of_mem hd)
  obtain ⟨c, hm⟩ := ofMaterial_of_start (by rw [hrole]; exact Role.noConfusion)
  have hc := (SessionCrypto.fits_of_ofMaterial hm).2
  have hsending := role_start_send replayWindow ids hm
  have hreceiving := role_start_recv replayWindow ids hm
  have hright := (hsent.follows hsending (near_of_ahead hahead) hbound (inRound_of_ahead hahead)).1
  have hsealed := hsent.sealed (c := c) (by rw [hsending]; rfl) hc (by rw [settings_start hm]) hright
  rw [settings_start hm] at hsealed
  have hforms : ∀ e ∈ past, (∃ h p, c.Sealed ids e h p) ∧ e.number < 0x1000000000000 := by
    intro e he
    exact ⟨hsealed e (hpast e he), hbound e (hpast e he)⟩
  obtain ⟨r, hr⟩ := received_deliveries hreceiving (settings_start hm .recv) hc hforms hnear.2
  obtain ⟨h, p, hform⟩ := hsealed d hd
  have hreply := (hr.unprotectRtp hc hform (fun e he => hright e (hpast e he)) hnear.1 (hbound d hd)).1
  have haccepts := hr.acceptsRtp_iff hahead hright hfrom
  refine ⟨hright d hd, ?_⟩
  by_cases hnew : d ∉ past ∧ ∀ e ∈ past, e.ssrc = d.ssrc →
      e.number < d.number + (Replay.Window.clamp replayWindow).toNat
  · rw [if_pos hnew]
    rwa [if_pos (haccepts.mpr hnew)] at hreply
  · rw [if_neg hnew]
    rwa [if_neg (mt haccepts.mp hnew)] at hreply

theorem delivered_media_at_wrap :
    ∃ d₁ d₂ t, (start 1024 [] .send .aesCm128HmacSha1_80 (zeros 30)).Sends [d₂, d₁] t ∧
      d₁.number = 65535 ∧ d₂.number = 65536 ∧
      let s := start 1024 [] .recv .aesCm128HmacSha1_80 (zeros 30)
      ((s.after (deliveries [d₁])).unprotectRtp d₂.wire).outcome = .ok 12 ∧
        ((s.after (deliveries [d₁])).unprotectRtp d₂.wire).bytes.take 12 = barePacket 0 0 ∧
        ((s.after (deliveries [d₂, d₁])).unprotectRtp d₁.wire).outcome = .error (.replayDetected 65535) := by
  obtain ⟨c, sent, t, -, hsent, hmap⟩ := exists_sends_bare [(65536, 0, 0), (65535, 255, 255)] (by decide)
  simp only [List.map_cons, List.map_nil, List.map_eq_cons_iff, List.map_eq_nil_iff, Prod.mk.injEq] at hmap
  obtain ⟨d₂, _, rfl, ⟨s₂, n₂, x₂⟩, d₁, _, rfl, ⟨s₁, n₁, x₁⟩, rfl⟩ := hmap
  have hahead : Stepwise Ahead [d₂, d₁] := by
    simp [Stepwise, Ahead, numbers, s₁, s₂, n₁, n₂]
  have hbound : ∀ d ∈ [d₂, d₁], d.number < 0x1000000000000 := by
    simp [n₁, n₂]
  have hne : d₂ ≠ d₁ := by
    rintro rfl
    omega
  have hnear : Stepwise Near [d₁, d₂, d₁] := by
    simp [Stepwise, Near, numbers, s₁, s₂, n₁, n₂]
  have hfrom : ∀ e ∈ [d₁, d₂, d₁], e ∈ [d₂, d₁] := by
    simp
  have h₂ := delivered_media_iff hsent hahead hbound (List.forall_mem_cons.mp hfrom).2 hnear.2
  have h₁ := delivered_media_iff hsent hahead hbound hfrom hnear
  have hnew : d₂ ∉ [d₁] ∧ ∀ e ∈ [d₁], e.ssrc = d₂.ssrc →
      e.number < d₂.number + (Replay.Window.clamp 1024).toNat := by
    simp [hne, n₁, n₂]
    omega
  have hold : ¬(d₁ ∉ [d₂, d₁] ∧ ∀ e ∈ [d₂, d₁], e.ssrc = d₁.ssrc →
      e.number < d₁.number + (Replay.Window.clamp 1024).toNat) := by
    simp
  have hindex : d₁.index = 65535 := UInt64.toNat_inj.mp (h₁.1.trans n₁)
  have htaken := h₂.2
  have hrefused := h₁.2
  rw [if_pos hnew, x₂] at htaken
  rw [if_neg hold, hindex] at hrefused
  exact ⟨d₁, d₂, t, hsent, n₁, n₂, htaken.1, htaken.2, hrefused⟩

end Session

end SecureRtp
