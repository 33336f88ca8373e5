import SecureRtp.Proofs.Transport.Reconciliation

namespace SecureRtp

structure FailureReport where
  kind : PacketKind
  notices : List Notice

namespace FailureReport

def isLoud (r : FailureReport) : Bool := r.notices.any fun n => n.level = .error

structure Numbered (number : Nat) (r : FailureReport) : Prop where
  loud : r.kind = .rtp → (r.isLoud = true ↔ number % 100 = 1)
  quiet : r.kind = .rtp → number % 100 ≠ 1 → ∃ n ∈ r.notices.getLast?, n.level = .debug

def mediaBefore (reports : List FailureReport) (n : Nat) : Nat := (reports.take n).countP fun r => r.kind = .rtp

def controlsBefore (reports : List FailureReport) (n : Nat) : Nat := (reports.take n).countP fun r => r.kind = .rtcp

theorem mediaBefore_add_controlsBefore {reports : List FailureReport} {n : Nat} (hn : n ≤ reports.length) :
    mediaBefore reports n + controlsBefore reports n = n := by
  have hcontrols : controlsBefore reports n = (reports.take n).countP fun r => ¬decide (r.kind = .rtp) = true := by
    apply List.countP_congr
    intro r _
    cases r.kind <;> simp
  rw [hcontrols, mediaBefore, ← List.length_eq_countP_add_countP, List.length_take_of_le hn]

def OncePerHundred (reports : List FailureReport) : Prop :=
  ∀ n r, reports[n]? = some r → r.kind = .rtp → (r.isLoud = true ↔ (mediaBefore reports n + 1) % 100 = 1)

theorem countP_isLoud_of_hundred {reports : List FailureReport} (start : Nat) (hlength : reports.length = 100)
    (hloud : ∀ j r, reports[j]? = some r → (r.isLoud = true ↔ (start + j + 1) % 100 = 1)) :
    reports.countP isLoud = 1 := by
  -- The hundred has one number that is 1 modulo 100, and its report is the only loud one.
  obtain ⟨j, hj, hfirst⟩ : ∃ j < 100, (start + j) % 100 = 0 := ⟨(100 - start % 100) % 100, by omega, by omega⟩
  have hlt : j < reports.length := by omega
  have hbefore : (reports.take j).countP isLoud = 0 := by
    rw [List.countP_eq_zero]
    intro r hr
    obtain ⟨i, hi, hri⟩ := List.mem_take_iff_getElem.mp hr
    rw [hloud i r (by rw [← hri]; exact List.getElem?_eq_getElem _)]
    omega
  have hafter : (reports.drop (j + 1)).countP isLoud = 0 := by
    rw [List.countP_eq_zero]
    intro r hr
    obtain ⟨i, hi, hri⟩ := List.mem_drop_iff_getElem.mp hr
    rw [hloud (j + 1 + i) r (by rw [← hri]; exact List.getElem?_eq_getElem _)]
    omega
  have hthere : reports[j].isLoud = true := by
    rw [hloud j _ (List.getElem?_eq_getElem hlt)]
    omega
  rw [← List.take_append_drop j reports, List.drop_eq_getElem_cons hlt, List.countP_append, hbefore,
    List.countP_cons_of_pos hthere, hafter]

end FailureReport

open FailureReport

theorem Receiver.level_unprotectRtp (r : Receiver) (settings : Settings) (packet : Bytes) :
    ∀ n ∈ (r.unprotectRtp settings packet).notices, n.level ≠ .error := by
  unfold unprotectRtp
  split
  · simp
  · dsimp only
    split
    · split
      · simp
      · simp [Notice.level]
    · simp [Notice.level]

theorem Session.level_unprotectRtp (s : Session) (packet : Bytes) :
    ∀ n ∈ (s.unprotectRtp packet).notices, n.level ≠ .error := by
  unfold unprotectRtp
  split
  · exact Receiver.level_unprotectRtp _ _ _
  · simp

theorem Session.exists_error_of_nil (s : Session) (kind : PacketKind) :
    ∃ e, (s.unprotect kind []).outcome = .error e := by
  cases hrole : s.role.receiver with
  | error e =>
    refine ⟨e, ?_⟩
    cases kind <;> simp only [unprotect, unprotectRtp, unprotectRtcp, hrole]
  | ok r =>
    cases kind with
    | rtp =>
      have hheader : r.rtpHeader [] = .error (.invalidPacket (.protectedTooShort 0)) := by
        apply if_pos
        rw [List.length_nil, Rtp.fixedLength]
        omega
      refine ⟨.invalidPacket (.protectedTooShort 0), ?_⟩
      simp only [unprotect, unprotectRtp, hrole, Receiver.unprotectRtp, hheader, PacketReply.mapState]
    | rtcp =>
      have hstream : r.rtcpStream [] = .error (.invalidPacket (.protectedControlTooShort 0)) := by
        apply if_pos
        rw [List.length_nil, Rtcp.headerLength]
        omega
      refine ⟨.invalidPacket (.protectedControlTooShort 0), ?_⟩
      simp only [unprotect, unprotectRtcp, hrole, Receiver.unprotectRtcp, hstream, PacketReply.mapState]

namespace Transport

section

variable {τ : Type}

def failureReports (t : Transport τ) : Operation τ → List FailureReport
  | .receive kind packet arrival =>
    let r := t.receive kind packet arrival
    match t.isActive, r.outcome with
    | true, .error _ => [⟨kind, r.notices⟩]
    | _, _ => []
  | _ => []

theorem failureReports_of_not_isPacketCall {t : Transport τ} {operation : Operation τ}
    (hop : operation.isPacketCall = false) : t.failureReports operation = [] := by
  cases operation with
  | receive kind packet arrival => cases hop
  | _ => rfl

theorem notices_unprotected_ofReply (packet : PacketBuffer) (reply : PacketReply Session Nat) :
    (Unprotected.ofReply packet reply).notices = reply.notices := by
  unfold Unprotected.ofReply
  dsimp only
  split
  · rfl
  · split <;> rfl

theorem level_unprotectFailure (name : String) (packet : Bytes) (number : Nat) (e : Error) :
    (unprotectFailure name .rtp packet number e).level = if number % 100 = 1 then .error else .debug := by
  have hnotice : unprotectFailure name .rtp packet number e =
      if number % 100 = 1 then
        .rtpUnprotectFailed name packet.length (Rtp.seq? packet) (Rtp.ssrc? packet) number e
      else .rtpUnprotectFailedAgain name e := rfl
  rw [hnotice]
  split <;> rfl

theorem numbered_of_unprotectFailure {kind : PacketKind} {before : List Notice}
    (hquiet : kind = .rtp → ∀ n ∈ before, n.level ≠ .error) (name : String) (packet : Bytes) (number : Nat)
    (e : Error) : FailureReport.Numbered number ⟨kind, before ++ [unprotectFailure name kind packet number e]⟩ := by
  have hlevel := level_unprotectFailure name packet number e
  constructor
  · rintro rfl
    have hno : ¬∃ n ∈ before, n.level = .error := fun ⟨n, hn, hl⟩ => hquiet rfl n hn hl
    simp only [isLoud, List.any_append, Bool.or_eq_true, List.any_eq_true, decide_eq_true_eq, hno, false_or,
      List.mem_singleton, exists_eq_left, hlevel]
    split <;> simp [*]
  · rintro rfl h
    refine ⟨_, List.getLast?_concat, ?_⟩
    rw [hlevel, if_neg h]

theorem isActive_receive (t : Transport τ) (kind : PacketKind) (packet : PacketBuffer) (arrival : Option Instant) :
    (t.receive kind packet arrival).state.isActive = t.isActive := by
  have hmodify (f : SessionPair → SessionPair) : (t.activation.modify f kind).rtp?.isSome = t.isActive := by
    rw [isActive]
    cases t.activation <;> cases kind <;> rfl
  obtain ⟨-, h⟩ | ⟨pair, -, ⟨e, -, h⟩ | ⟨-, h⟩⟩ := t.receive_cases kind packet arrival <;> rw [h]
  · rfl
  · exact hmodify _
  · exact hmodify _

theorem receive_of_active {t : Transport τ} {kind : PacketKind} {pair : SessionPair}
    (hp : t.activation.sessions? kind = some pair) (packet : PacketBuffer) (arrival : Option Instant) :
    let r := t.receive kind packet arrival
    (∃ e, r.outcome = .error e ∧ r.state.stats = t.stats.countUnprotectFailure ∧
      FailureReport.Numbered (t.stats.unprotectFailures + 1) ⟨kind, r.notices⟩) ∨
    (r.outcome = .ok () ∧ r.state.stats.unprotectFailures = t.stats.unprotectFailures) := by
  obtain ⟨hnone, -⟩ | ⟨other, hother, ⟨e, -, h⟩ | ⟨-, h⟩⟩ := t.receive_cases kind packet arrival
  · cases hp.symm.trans hnone
  · have hquiet : kind = .rtp → ∀ n ∈ (unprotectWith other.recv kind packet).notices, n.level ≠ .error := by
      rintro rfl
      rw [unprotectWith, notices_unprotected_ofReply]
      exact other.recv.level_unprotectRtp packet.packet
    left
    rw [h]
    exact ⟨e, rfl, rfl, numbered_of_unprotectFailure hquiet _ _ _ _⟩
  · right
    rw [h]
    refine ⟨rfl, ?_⟩
    cases kind <;> rfl

theorem failureReports_of_empty {t : Transport τ} (ha : t.isActive = true) (kind : PacketKind) :
    ∃ notices, t.failureReports (.receive kind ⟨[], []⟩ none) = [⟨kind, notices⟩] := by
  have hfailed (pair : SessionPair) : ∃ e, (unprotectWith pair.recv kind ⟨[], []⟩).outcome = .error e := by
    obtain ⟨e, he⟩ := pair.recv.exists_error_of_nil kind
    rw [unprotectWith_eq]
    simp only [Unprotected.ofReply, he]
    exact ⟨e, rfl⟩
  obtain ⟨e, houtcome⟩ : ∃ e, (t.receive kind ⟨[], []⟩ none).outcome = .error e := by
    obtain ⟨-, h⟩ | ⟨pair, -, ⟨e, -, h⟩ | ⟨ho, -⟩⟩ := t.receive_cases kind ⟨[], []⟩ none
    · exact ⟨_, by rw [h]⟩
    · exact ⟨e, by rw [h]⟩
    · obtain ⟨e, he⟩ := hfailed pair
      cases he.symm.trans ho
  refine ⟨(t.receive kind ⟨[], []⟩ none).notices, ?_⟩
  simp only [failureReports, ha, houtcome]

end

section

variable {τ : Type} [Carrier τ]

theorem unprotectFailures_send (t : Transport τ) (kind : PacketKind) (packet : PacketBuffer) (options : PacketOptions)
    (flags : UInt32) :
    (t.send kind packet options flags).carrier.stats.unprotectFailures = t.stats.unprotectFailures := by
  obtain ⟨-, h⟩ | ⟨pair, -, ⟨e, -, h⟩ | ⟨sentOptions, -, h⟩⟩ := t.send_cases kind packet options flags
  · rw [h]
    rfl
  · rw [h]
    rfl
  · cases ho : (t.send kind packet options flags).outcome with
    | error e =>
      rw [h] at ho ⊢
      rw [stats_handedDown_of_error ho]
    | ok =>
      rw [h] at ho ⊢
      rw [stats_handedDown_of_ok ho]
      cases kind <;> rfl

structure NumbersFailures (t : Transport τ) (operation : Operation τ) : Prop where
  counted :
    (t.perform operation).stats.unprotectFailures = t.stats.unprotectFailures + (t.failureReports operation).length
  numbered : ∀ n r, (t.failureReports operation)[n]? = some r →
    FailureReport.Numbered (t.stats.unprotectFailures + n + 1) r

theorem NumbersFailures.of_nil {t : Transport τ} {operation : Operation τ} (hreports : t.failureReports operation = [])
    (hstats : (t.perform operation).stats.unprotectFailures = t.stats.unprotectFailures) :
    t.NumbersFailures operation := by
  constructor
  · rw [hreports, hstats]
    rfl
  · rw [hreports]
    intro n r hr
    cases hr

theorem numbersFailures_receive (t : Transport τ) (kind : PacketKind) (packet : PacketBuffer)
    (arrival : Option Instant) : t.NumbersFailures (.receive kind packet arrival) := by
  have hactive : t.isActive = (t.activation.sessions? kind).isSome := (t.activation.isSome_sessions? kind).symm
  cases hp : t.activation.sessions? kind with
  | none =>
    rw [hp] at hactive
    apply NumbersFailures.of_nil
    · simp only [failureReports, hactive, Option.isSome_none]
    · simp only [perform, receive, hp]
      rfl
  | some pair =>
    rw [hp] at hactive
    obtain ⟨e, houtcome, hstats, hnumbered⟩ | ⟨houtcome, hstats⟩ := receive_of_active hp packet arrival
    · have hreport : t.failureReports (.receive kind packet arrival) =
          [⟨kind, (t.receive kind packet arrival).notices⟩] := by
        simp only [failureReports, hactive, Option.isSome_some, houtcome]
      constructor
      · rw [hreport, perform, hstats]
        rfl
      · rw [hreport]
        rintro (_ | n) r hr
        · obtain rfl := Option.some.inj hr
          exact hnumbered
        · cases hr
    · apply NumbersFailures.of_nil
      · simp only [failureReports, hactive, Option.isSome_some, houtcome]
      · exact hstats

theorem numbersFailures (t : Transport τ) (operation : Operation τ) : t.NumbersFailures operation := by
  cases hop : operation.isPacketCall with
  | false =>
    apply NumbersFailures.of_nil (failureReports_of_not_isPacketCall hop)
    rw [(perform_of_not_isPacketCall hop).1]
  | true =>
    cases operation with
    | send kind packet options flags =>
      exact .of_nil rfl (t.unprotectFailures_send kind packet options flags)
    | receive kind packet arrival => exact t.numbersFailures_receive kind packet arrival
    | _ => cases hop

theorem numbered_reports (t : Transport τ) (operations : List (Operation τ)) :
    (t.after operations).stats.unprotectFailures =
        t.stats.unprotectFailures + (t.gathered failureReports operations).length ∧
      ∀ n r, (t.gathered failureReports operations)[n]? = some r →
        FailureReport.Numbered (t.stats.unprotectFailures + n + 1) r := by
  induction operations with
  | nil => exact ⟨rfl, nofun⟩
  | cons operation past ih =>
    obtain ⟨hcount, hnumbered⟩ := ih
    obtain ⟨hstep, hnext⟩ := (t.after past).numbersFailures operation
    rw [after, gathered, hstep, hcount]
    constructor
    · rw [List.length_append, Nat.add_assoc]
    · intro n r hr
      rw [List.getElem?_append] at hr
      split at hr
      · exact hnumbered n r hr
      · rename_i hlater
        have hlast := hnext _ r hr
        rwa [hcount, Nat.add_assoc t.stats.unprotectFailures, Nat.add_sub_of_le (Nat.le_of_not_lt hlater)] at hlast

/-- One counter is shared by the failures of media and control, so that a failure of media is reported as an error if
its number among all of them asks for it. It is so once per hundred failures of media as long as no others come between;
and for the whole run exactly if those of control that came before never make a difference. -/
theorem media_failure_loud_iff (carrier : τ) (config : TransportConfig) (operations : List (Operation τ)) :
    let reports := (ofConfig carrier config).1.gathered failureReports operations
    (∀ n r, reports[n]? = some r → r.kind = .rtp →
      (r.isLoud = true ↔ (mediaBefore reports n + 1 + controlsBefore reports n) % 100 = 1) ∧
        (r.isLoud = false → ∃ notice ∈ r.notices.getLast?, notice.level = .debug)) ∧
    (∀ hundred, hundred <:+: reports → hundred.length = 100 → (∀ r ∈ hundred, r.kind = .rtp) →
      hundred.countP isLoud = 1) ∧
    (OncePerHundred reports ↔ ∀ n r, reports[n]? = some r → r.kind = .rtp →
      let number := mediaBefore reports n + 1
      let others := controlsBefore reports n
      others % 100 = 0 ∨ number % 100 ≠ 1 ∧ (number + others) % 100 ≠ 1) := by
  intro reports
  have hnumbered (n : Nat) (r : FailureReport) (hr : reports[n]? = some r) : FailureReport.Numbered (n + 1) r := by
    have h := ((ofConfig carrier config).1.numbered_reports operations).2 n r hr
    rwa [(show (ofConfig carrier config).1.stats.unprotectFailures = 0 from rfl), Nat.zero_add] at h
  -- The number of a report is made up of the reports of both kinds before it.
  have hbefore (n : Nat) (r : FailureReport) (hr : reports[n]? = some r) :
      mediaBefore reports n + controlsBefore reports n = n :=
    mediaBefore_add_controlsBefore (Nat.le_of_lt (List.getElem?_eq_some_iff.mp hr).1)
  have hloud (n : Nat) (r : FailureReport) (hr : reports[n]? = some r) (hk : r.kind = .rtp) :
      r.isLoud = true ↔ (mediaBefore reports n + 1 + controlsBefore reports n) % 100 = 1 := by
    rw [(hnumbered n r hr).loud hk, Nat.add_right_comm, hbefore n r hr]
  refine ⟨?_, ?_, ?_⟩
  · intro n r hr hk
    refine ⟨hloud n r hr hk, ?_⟩
    intro hq
    apply (hnumbered n r hr).quiet hk
    rw [ne_eq, ← (hnumbered n r hr).loud hk, hq]
    exact Bool.false_ne_true
  · rintro hundred ⟨earlier, later, he⟩ hlength hkind
    apply countP_isLoud_of_hundred earlier.length hlength
    intro j r hr
    have hreport : reports[earlier.length + j]? = some r := by
      have hj := (List.getElem?_eq_some_iff.mp hr).1
      rw [← he, List.append_assoc, List.getElem?_append_right (Nat.le_add_right _ _), Nat.add_sub_cancel_left,
        List.getElem?_append_left hj, hr]
    exact (hnumbered _ r hreport).loud (hkind r (List.mem_of_getElem? hr))
  · have harith (number others : Nat) : (((number + others) % 100 = 1) ↔ (number % 100 = 1)) ↔
        (others % 100 = 0 ∨ number % 100 ≠ 1 ∧ (number + others) % 100 ≠ 1) := by omega
    constructor
    · intro h n r hr hk
      apply (harith _ _).mp
      rw [← hloud n r hr hk]
      exact h n r hr hk
    · intro h n r hr hk
      rw [hloud n r hr hk]
      exact (harith _ _).mpr (h n r hr hk)

theorem first_media_failure_is_quiet :
    let params : KeyParams := ⟨.aesCm128HmacSha1_80, zeros 30, .aesCm128HmacSha1_80, zeros 30⟩
    let run : List (Operation Recorder) :=
      [.receive .rtp ⟨[], []⟩ none, .receive .rtcp ⟨[], []⟩ none, .setRtpParams params]
    ¬OncePerHundred ((ofConfig ({} : Recorder) {}).1.gathered failureReports run) := by
  intro params run
  obtain ⟨c, hm, -, -⟩ := SessionCrypto.fits_ofMaterial
    (show (zeros 30).length = Suite.aesCm128HmacSha1_80.materialLength from rfl)
  have hcreate : (ofConfig ({} : Recorder) {}).1.createSessions .rtp params =
      (.ok ((ofConfig ({} : Recorder) {}).1.pairOf .rtp c c), _) :=
    createSessions_of_ofMaterial _ .rtp hm hm
  obtain ⟨activation, hstate, hrtp⟩ := activation_setRtpParams hcreate
  have hactive : ((ofConfig ({} : Recorder) {}).1.after [.setRtpParams params]).isActive = true := by
    rw [after, after, perform, hstate, isActive, hrtp]
    rfl
  obtain ⟨control, hcontrol⟩ := failureReports_of_empty hactive .rtcp
  have hstill := (isActive_receive _ .rtcp ⟨[], []⟩ none).trans hactive
  obtain ⟨media, hmedia⟩ := failureReports_of_empty hstill .rtp
  have hreports : (ofConfig ({} : Recorder) {}).1.gathered failureReports run =
      [⟨.rtcp, control⟩, ⟨.rtp, media⟩] := by
    simp only [run, gathered]
    rw [hcontrol]
    exact congrArg _ hmedia
  -- The control packet has taken the number 1, which would have been loud.
  have hnumbered := ((ofConfig ({} : Recorder) {}).1.numbered_reports run).2 1 ⟨.rtp, media⟩ (by rw [hreports]; rfl)
  rw [hreports]
  intro honce
  have hloud := (honce 1 ⟨.rtp, media⟩ rfl rfl).mpr rfl
  exact absurd ((hnumbered.loud rfl).mp hloud) (by decide)

end

end Transport

end SecureRtp
