import SecureRtp.Proofs.Session.Media
import SecureRtp.Proofs.Session.Run
/-!
Which number a sender gives to each packet of a stream. The true numbers count on over the 65536 sequence
numbers; the sender sees only the last 16 bits of each.
-/
namespace SecureRtp

open Rtp

/-- A media packet that was sent: its true number in its stream, its text, the index it got and its wire form. -/
structure SentPacket where
  ssrc : UInt32
  number : Nat
  text : Bytes
  index : UInt64
  wire : Bytes
  deriving DecidableEq

def numbers (ssrc : UInt32) (packets : List SentPacket) : List Nat :=
  (packets.filter fun d => d.ssrc = ssrc).map (·.number)

/-- Every packet of a list stands in the relation to the ones before it, which come after it in the list. -/
def Stepwise (step : List SentPacket → SentPacket → Prop) : List SentPacket → Prop
  | [] => True
  | d :: past => step past d ∧ Stepwise step past

/-- A packet less than half a round from the highest of its stream so far, and of the first round if there is
none. -/
def Near (past : List SentPacket) (d : SentPacket) : Prop :=
  match (numbers d.ssrc past).max? with
  | none => d.number < 0x10000
  | some highest => highest < d.number + 0x8000 ∧ d.number < highest + 0x8000

def Ahead (past : List SentPacket) (d : SentPacket) : Prop :=
  match (numbers d.ssrc past).head? with
  | none => d.number < 0x10000
  | some last => last < d.number ∧ d.number < last + 0x8000

def InRound (past : List SentPacket) (d : SentPacket) : Prop :=
  ∀ n ∈ numbers d.ssrc past, n / 0x10000 ≤ d.number / 0x10000

variable {ssrc : UInt32} {past sent : List SentPacket} {d : SentPacket}

instance (past : List SentPacket) (d : SentPacket) : Decidable (Near past d) := by
  unfold Near
  cases (numbers d.ssrc past).max? <;> infer_instance

instance (past : List SentPacket) (d : SentPacket) : Decidable (Ahead past d) := by
  unfold Ahead
  cases (numbers d.ssrc past).head? <;> infer_instance

instance (past : List SentPacket) (d : SentPacket) : Decidable (InRound past d) := by
  unfold InRound
  infer_instance

theorem numbers_cons_self (d : SentPacket) (past : List SentPacket) :
    numbers d.ssrc (d :: past) = d.number :: numbers d.ssrc past := by
  simp [numbers]

theorem numbers_cons_of_ne (h : d.ssrc ≠ ssrc) (past : List SentPacket) :
    numbers ssrc (d :: past) = numbers ssrc past := by
  simp [numbers, h]

theorem mem_numbers {n : Nat} : n ∈ numbers ssrc past ↔ ∃ d ∈ past, d.ssrc = ssrc ∧ d.number = n := by
  simp [numbers, and_assoc]

namespace Session

inductive Protects (s : Session) (d : SentPacket) (t : Session) : Prop
  | intro (h : Header) (spare : Bytes) (length : Nat) (header : Header.read? d.text = some h)
      (ssrc : h.ssrc = d.ssrc) (seq : h.seq.toNat = d.number % 0x10000)
      (outcome : (s.protectRtp (d.text ++ spare) d.text.length).outcome = .ok (length, d.index))
      (wire : (s.protectRtp (d.text ++ spare) d.text.length).bytes.take length = d.wire)
      (state : (s.protectRtp (d.text ++ spare) d.text.length).state = t)

inductive Sends (s : Session) : List SentPacket → Session → Prop
  | nil : s.Sends [] s
  | cons {sent : List SentPacket} {t u : Session} {d : SentPacket} (past : s.Sends sent t) (last : t.Protects d u) :
      s.Sends (d :: sent) u

end Session

namespace Sender

def Follows (s : Sender) (sent : List SentPacket) : Prop :=
  ∀ ssrc : UInt32, (s.positions[ssrc]?).map (·.index.toNat) = (numbers ssrc sent).max?

theorem toNat_index_nextPosition {s : Sender} (hs : s.Follows sent) (hn : Near sent d)
    (hd : d.number < 0x1000000000000) {seq : UInt16} (hseq : seq.toNat = d.number % 0x10000) :
    (InRound sent d → (s.nextPosition d.ssrc seq).index.toNat = d.number) ∧
      (¬InRound sent d → (s.nextPosition d.ssrc seq).index.toNat = d.number + 0x10000) := by
  have hpos := hs d.ssrc
  unfold nextPosition
  unfold Near at hn
  cases hlast : s.positions[d.ssrc]? with
  | none =>
    rw [hlast] at hpos
    have hnone : (numbers d.ssrc sent).max? = none := hpos.symm
    rw [hnone] at hn
    have hnil := List.max?_eq_none_iff.mp hnone
    dsimp only at hn ⊢
    constructor
    · intro _
      rw [Position.toNat_index_mk, UInt32.toNat_zero, hseq]
      omega
    · intro hno
      apply absurd _ hno
      rw [InRound, hnil]
      rintro n ⟨⟩
  | some last =>
    rw [hlast] at hpos
    have hsome : (numbers d.ssrc sent).max? = some last.index.toNat := hpos.symm
    rw [hsome] at hn
    obtain ⟨hmem, hmax⟩ := List.max?_eq_some_iff.mp hsome
    have hnext := Position.toNat_index_next hd hseq hn.1 hn.2
    -- The rounds of all packets are compared when the round of the highest one is.
    have hround : InRound sent d ↔ ¬d.number / 0x10000 < last.index.toNat / 0x10000 := by
      constructor
      · intro h
        exact Nat.not_lt.mpr (h _ hmem)
      · intro h n hn
        have := hmax n hn
        omega
    dsimp only
    rw [hnext, hround]
    exact ⟨fun h => if_neg h, fun h => if_pos (Decidable.not_not.mp h)⟩

theorem Follows.recordRtp {s : Sender} (hs : s.Follows sent) {p : Position} (hp : p.index.toNat = d.number) :
    (s.recordRtp d.ssrc p).Follows (d :: sent) := by
  intro ssrc
  have hpos := hs ssrc
  by_cases h : d.ssrc = ssrc
  · subst h
    rw [positions_recordRtp_self, numbers_cons_self, List.max?_cons, ← hpos, ← hp]
    exact congrArg some (toNat_index_latest _ _)
  · rw [positions_recordRtp_of_ne _ _ h, numbers_cons_of_ne h]
    exact hpos

theorem protectRtp_ok {s : Sender} {settings : Settings} {buffer : Bytes} {length n : Nat} {index : UInt64}
    (hok : (s.protectRtp settings buffer length).outcome = .ok (n, index)) :
    ∃ h, s.rtpHeader buffer length = .ok h ∧ index = (s.nextPosition h.ssrc h.seq).index ∧
      (s.protectRtp settings buffer length).state = s.recordRtp h.ssrc (s.nextPosition h.ssrc h.seq) := by
  unfold protectRtp at hok ⊢
  cases hh : s.rtpHeader buffer length with
  | error e =>
    rw [hh] at hok
    cases hok
  | ok h =>
    rw [hh] at hok
    dsimp only at hok ⊢
    split at hok
    · cases hok
    · exact ⟨h, rfl, (Prod.mk.inj (Except.ok.inj hok)).2.symm, rfl⟩

theorem read?_of_rtpHeader {s : Sender} {text spare : Bytes} {h : Header}
    (hh : s.rtpHeader (text ++ spare) text.length = .ok h) : Header.read? text = some h := by
  obtain ⟨text', spare', heq, hlen, -, hread⟩ := exists_of_rtpHeader hh
  obtain ⟨rfl, -⟩ := List.append_inj heq hlen.symm
  exact hread

end Sender

namespace Session

variable {s t : Session}

theorem Protects.step (hp : s.Protects d t) :
    ∃ (sender : Sender) (seq : UInt16), s.role = .sending sender ∧ seq.toNat = d.number % 0x10000 ∧
      d.index = (sender.nextPosition d.ssrc seq).index ∧
      t.role = .sending (sender.recordRtp d.ssrc (sender.nextPosition d.ssrc seq)) := by
  obtain ⟨h, spare, length, header, ssrc, seq, outcome, -, rfl⟩ := hp
  cases hr : s.role with
  | idle =>
    rw [protectRtp, hr] at outcome
    cases outcome
  | receiving r =>
    rw [protectRtp, hr] at outcome
    cases outcome
  | sending sender =>
    rw [protectRtp_of_sending hr] at outcome ⊢
    obtain ⟨h', hh, hindex, hstate⟩ := Sender.protectRtp_ok outcome
    cases header.symm.trans (Sender.read?_of_rtpHeader hh)
    refine ⟨sender, h.seq, rfl, seq, ?_, ?_⟩
    · rw [hindex, ssrc]
    · rw [← ssrc]
      exact congrArg Role.sending hstate

theorem Sends.follows {s t : Session} (hs : s.Sends sent t) {crypto : SessionCrypto}
    (hrole : s.role = .sending { crypto }) (hn : Stepwise Near sent)
    (hb : ∀ d ∈ sent, d.number < 0x1000000000000) (hr : Stepwise InRound sent) :
    (∀ d ∈ sent, d.index.toNat = d.number) ∧ ∃ sender : Sender, t.role = .sending sender ∧ sender.Follows sent := by
  induction hs with
  | nil =>
    refine ⟨nofun, _, hrole, ?_⟩
    intro ssrc
    simp [numbers]
  | cons past last ih =>
    rename_i past t u d
    obtain ⟨hbd, hbpast⟩ := List.forall_mem_cons.mp hb
    obtain ⟨hright, sender, hsender, hfollows⟩ := ih hn.2 hbpast hr.2
    obtain ⟨sender', seq, hsender', hseq, hindex, hu⟩ := last.step
    cases hsender.symm.trans hsender'
    have hd := (Sender.toNat_index_nextPosition hfollows hn.1 hbd hseq).1 hr.1
    refine ⟨?_, _, hu, hfollows.recordRtp hd⟩
    exact List.forall_mem_cons.mpr ⟨by rw [hindex, hd], hright⟩

theorem Sends.misnumbered {s t : Session} {past : List SentPacket} (hs : s.Sends (d :: past) t)
    {crypto : SessionCrypto} (hrole : s.role = .sending { crypto }) (hn : Stepwise Near (d :: past))
    (hb : ∀ e ∈ d :: past, e.number < 0x1000000000000) (hpast : Stepwise InRound past) (hd : ¬InRound past d) :
    d.index.toNat = d.number + 0x10000 := by
  cases hs with
  | cons hs last =>
    obtain ⟨hbd, hbpast⟩ := List.forall_mem_cons.mp hb
    obtain ⟨-, sender, hsender, hfollows⟩ := hs.follows hrole hn.2 hbpast hpast
    obtain ⟨sender', seq, hsender', hseq, hindex, -⟩ := last.step
    cases hsender.symm.trans hsender'
    rw [hindex]
    exact (Sender.toNat_index_nextPosition hfollows hn.1 hbd hseq).2 hd

theorem Sends.inRound {s t : Session} (hs : s.Sends sent t) {crypto : SessionCrypto}
    (hrole : s.role = .sending { crypto }) (hn : Stepwise Near sent)
    (hb : ∀ d ∈ sent, d.number < 0x1000000000000) (hright : ∀ d ∈ sent, d.index.toNat = d.number) :
    Stepwise InRound sent := by
  induction hs with
  | nil => trivial
  | cons past last ih =>
    rename_i past' t u d
    obtain ⟨hnumber, hrightPast⟩ := List.forall_mem_cons.mp hright
    have hpast := ih hn.2 (List.forall_mem_cons.mp hb).2 hrightPast
    refine ⟨?_, hpast⟩
    apply Decidable.byContradiction
    intro hno
    have hwrong := (past.cons last).misnumbered hrole hn hb hpast hno
    omega

theorem Sends.role {s t : Session} (hs : s.Sends sent t) (hne : sent ≠ []) :
    ∃ sender, s.role = .sending sender := by
  induction hs with
  | nil => contradiction
  | cons past last ih =>
    cases past with
    | nil =>
      obtain ⟨sender, -, hr, -⟩ := last.step
      exact ⟨sender, hr⟩
    | cons past' last' => exact ih (List.cons_ne_nil _ _)

theorem configure_send {s : Session} (hs : s.role = .idle) (suite : Suite) (material : Bytes) :
    (∃ crypto, (s.configure .send suite material).state.role = .sending { crypto }) ∨
      (s.configure .send suite material).state.role = .idle := by
  obtain ⟨settings, role⟩ := s
  cases hs
  simp only [configure, Role.direction?]
  cases SessionCrypto.ofMaterial suite material with
  | ok crypto => exact .inl ⟨crypto, rfl⟩
  | error e => exact .inr rfl

theorem exists_protects {s : Session} {sender : Sender} {crypto : SessionCrypto} (hs : s.role = .sending sender)
    (hcrypto : sender.crypto = crypto) (hc : crypto.Fits) {text : Bytes} {h : Header}
    (header : Header.read? text = some h) (hl : crypto.rtp.Seals h.length (text.length - h.length)) {number : Nat}
    (hseq : h.seq.toNat = number % 0x10000) :
    ∃ wire t, s.Protects ⟨h.ssrc, number, text, (sender.nextPosition h.ssrc h.seq).index, wire⟩ t ∧
      t.role = .sending (sender.recordRtp h.ssrc (sender.nextPosition h.ssrc h.seq)) := by
  subst hcrypto
  have hroom : sender.crypto.suite.rtpTagLength ≤ (zeros sender.crypto.suite.rtpTagLength).length := by simp
  have hsends : sender.SendsRtp (text ++ zeros sender.crypto.suite.rtpTagLength) text.length h text
      (zeros sender.crypto.suite.rtpTagLength) := ⟨rfl, rfl, hroom, header, hl⟩
  have hreply := protectRtp_of_sending hs (text ++ zeros sender.crypto.suite.rtpTagLength) text.length
  rw [hsends.protectRtp hc] at hreply
  refine ⟨(s.protectRtp (text ++ zeros sender.crypto.suite.rtpTagLength) text.length).bytes.take
      (text.length + sender.crypto.suite.rtpTagLength), _,
    ⟨h, zeros sender.crypto.suite.rtpTagLength, _, header, rfl, hseq, ?_, rfl, rfl⟩, ?_⟩
  · rw [hreply]
    rfl
  · rw [hreply]
    rfl

theorem exists_sends {s : Session} {crypto : SessionCrypto} (hs : s.role = .sending { crypto }) (hc : crypto.Fits)
    {packets : List (UInt32 × Nat × Bytes)}
    (hp : ∀ p ∈ packets, ∃ h, Header.read? p.2.2 = some h ∧ h.ssrc = p.1 ∧ h.seq.toNat = p.2.1 % 0x10000 ∧
      crypto.rtp.Seals h.length (p.2.2.length - h.length)) :
    ∃ sent t sender, s.Sends sent t ∧ sent.map (fun d => (d.ssrc, d.number, d.text)) = packets ∧
      t.role = .sending sender ∧ sender.crypto = crypto := by
  induction packets with
  | nil => exact ⟨[], s, _, .nil, rfl, hs, rfl⟩
  | cons p packets ih =>
    obtain ⟨⟨h, header, hssrc, hseq, hl⟩, hpast⟩ := List.forall_mem_cons.mp hp
    obtain ⟨sent, t, sender, hsent, hmap, hrole, hcrypto⟩ := ih hpast
    obtain ⟨wire, u, hprotects, hu⟩ := exists_protects hrole hcrypto hc header hl hseq
    refine ⟨_, u, _, hsent.cons hprotects, ?_, hu, (Sender.crypto_recordRtp _ _ _).trans hcrypto⟩
    rw [List.map_cons, hmap, hssrc]

/-- A sender takes no packet for one of an earlier round. In a run in which every packet is near the highest of its
stream so far, all packets get their true numbers just if none is of an earlier round than a packet before it. -/
theorem sent_indices_right_iff {s t : Session} (hs : s.role = .idle) (suite : Suite) (material : Bytes)
    {sent : List SentPacket} (hsent : (s.configure .send suite material).state.Sends sent t)
    (hnear : Stepwise Near sent) (hbound : ∀ d ∈ sent, d.number < 0x1000000000000) :
    (∀ d ∈ sent, d.index.toNat = d.number) ↔ Stepwise InRound sent := by
  obtain ⟨crypto, hrole⟩ | hidle := configure_send hs suite material
  · constructor
    · exact hsent.inRound hrole hnear hbound
    · intro hround
      exact (hsent.follows hrole hnear hbound hround).1
  · cases sent with
    | nil => exact ⟨fun _ => trivial, fun _ => nofun⟩
    | cons d past =>
      obtain ⟨sender, hrole⟩ := hsent.role (List.cons_ne_nil _ _)
      cases hidle.symm.trans hrole

def barePacket (hi lo : UInt8) : Bytes := [0x80, 0, hi, lo, 0, 0, 0, 0, 0, 0, 0, 1]

theorem exists_sends_bare (packets : List (Nat × UInt8 × UInt8))
    (hp : ∀ p ∈ packets, (word16 p.2.1 p.2.2).toNat = p.1 % 0x10000) :
    ∃ crypto sent t, (start 1024 [] .send .aesCm128HmacSha1_80 (zeros 30)).role = .sending { crypto } ∧
      (start 1024 [] .send .aesCm128HmacSha1_80 (zeros 30)).Sends sent t ∧
      sent.map (fun d => (d.ssrc, d.number, d.text)) = packets.map fun p => (1, p.1, barePacket p.2.1 p.2.2) := by
  have hlen : (zeros 30).length = Suite.aesCm128HmacSha1_80.materialLength := rfl
  obtain ⟨c, hm, -, hc⟩ := SessionCrypto.fits_ofMaterial hlen
  have hrole := role_start_send 1024 [] hm
  have hl : c.rtp.Seals 12 0 := c.rtp.seals_of_le (by decide) (by decide)
  have hsendable : ∀ q ∈ packets.map fun p => ((1 : UInt32), p.1, barePacket p.2.1 p.2.2), ∃ h,
      Header.read? q.2.2 = some h ∧ h.ssrc = q.1 ∧ h.seq.toNat = q.2.1 % 0x10000 ∧
        c.rtp.Seals h.length (q.2.2.length - h.length) := by
    intro q hq
    obtain ⟨p, hmem, rfl⟩ := List.mem_map.mp hq
    exact ⟨⟨0, false, word16 p.2.1 p.2.2, 1, 12⟩, rfl, rfl, hp p hmem, hl⟩
  obtain ⟨sent, t, -, hsent, hmap, -⟩ := exists_sends hrole hc hsendable
  exact ⟨c, sent, t, hrole, hsent, hmap⟩

theorem sent_indices_right_at_wrap :
    ∃ sent t, (start 1024 [] .send .aesCm128HmacSha1_80 (zeros 30)).Sends sent t ∧
      sent.map (·.number) = [65536, 65535] ∧ Stepwise Near sent ∧ ∀ d ∈ sent, d.index.toNat = d.number := by
  obtain ⟨c, sent, t, -, hsent, hmap⟩ := exists_sends_bare [(65536, 0, 0), (65535, 255, 255)] (by decide)
  simp only [List.map_cons, List.map_nil, List.map_eq_cons_iff, List.map_eq_nil_iff, Prod.mk.injEq] at hmap
  obtain ⟨d₂, _, rfl, ⟨s₂, n₂, -⟩, d₁, _, rfl, ⟨s₁, n₁, -⟩, rfl⟩ := hmap
  have hnear : Stepwise Near [d₂, d₁] := by
    simp [Stepwise, Near, numbers, s₁, s₂, n₁, n₂]
  have hround : Stepwise InRound [d₂, d₁] := by
    simp [Stepwise, InRound, numbers, s₁, s₂, n₁, n₂]
  have hbound : ∀ d ∈ [d₂, d₁], d.number < 0x1000000000000 := by
    simp [n₁, n₂]
  have hidle : ((ofWindow 1024).setEncryptedIds []).role = .idle := rfl
  refine ⟨_, t, hsent, by simp [n₁, n₂], hnear, ?_⟩
  exact (sent_indices_right_iff hidle .aesCm128HmacSha1_80 (zeros 30) hsent hnear hbound).mpr hround

theorem late_packet_is_misnumbered :
    ∃ sent t, (start 1024 [] .send .aesCm128HmacSha1_80 (zeros 30)).Sends sent t ∧ Stepwise Near sent ∧
      sent.map (fun d => (d.text, d.number, d.index.toNat)) =
        [(barePacket 255 255, 65535, 131071), (barePacket 0 0, 65536, 65536), (barePacket 255 255, 65535, 65535)] := by
  obtain ⟨c, sent, t, hrole, hsent, hmap⟩ :=
    exists_sends_bare [(65535, 255, 255), (65536, 0, 0), (65535, 255, 255)] (by decide)
  simp only [List.map_cons, List.map_nil, List.map_eq_cons_iff, List.map_eq_nil_iff, Prod.mk.injEq] at hmap
  obtain ⟨d₃, _, rfl, ⟨s₃, n₃, x₃⟩, d₂, _, rfl, ⟨s₂, n₂, x₂⟩, d₁, _, rfl, ⟨s₁, n₁, x₁⟩, rfl⟩ := hmap
  have hnear : Stepwise Near [d₃, d₂, d₁] := by
    simp [Stepwise, Near, numbers, s₁, s₂, s₃, n₁, n₂, n₃]
  have hround : Stepwise InRound [d₂, d₁] := by
    simp [Stepwise, InRound, numbers, s₁, s₂, n₁, n₂]
  have hlate : ¬InRound [d₂, d₁] d₃ := by
    simp [InRound, numbers, s₁, s₂, s₃, n₁, n₂, n₃]
  have hbound : ∀ d ∈ [d₃, d₂, d₁], d.number < 0x1000000000000 := by
    simp [n₁, n₂, n₃]
  refine ⟨_, t, hsent, hnear, ?_⟩
  have h₃ := hsent.misnumbered hrole hnear hbound hround hlate
  cases hsent with
  | cons past last =>
    have hright := (past.follows hrole hnear.2 (List.forall_mem_cons.mp hbound).2 hround).1
    simp only [List.forall_mem_cons] at hright
    simp [x₁, x₂, x₃, n₁, n₂, n₃, h₃, hright.1, hright.2.1]

end Session

end SecureRtp
