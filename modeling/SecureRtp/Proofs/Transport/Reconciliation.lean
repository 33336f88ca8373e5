import SecureRtp.Proofs.Transport.Listening
import SecureRtp.Proofs.Transport.Sending

namespace SecureRtp

namespace Stats

variable (s : Stats)

def packetsProtected : PacketKind → Nat
  | .rtp => s.rtpProtected
  | .rtcp => s.rtcpProtected

def packetsUnprotected : PacketKind → Nat
  | .rtp => s.rtpUnprotected
  | .rtcp => s.rtcpUnprotected

def packets : Nat := s.rtpProtected + s.rtcpProtected + s.rtpUnprotected + s.rtcpUnprotected

structure Fits : Prop where
  packets : s.packets < UInt64.size
  drops : s.totalDrops < UInt64.size
  bytesProtected : s.bytesProtected < UInt64.size
  bytesUnprotected : s.bytesUnprotected < UInt64.size

section

variable (kind asked : PacketKind) (bytes : Nat)

@[simp] theorem packetsProtected_countProtected :
    (s.countProtected kind bytes).packetsProtected asked =
      s.packetsProtected asked + if kind = asked then 1 else 0 := by
  cases kind <;> cases asked <;> rfl

@[simp] theorem bytesProtected_countProtected :
    (s.countProtected kind bytes).bytesProtected = s.bytesProtected + bytes := by
  cases kind <;> rfl

@[simp] theorem packetsUnprotected_countProtected :
    (s.countProtected kind bytes).packetsUnprotected asked = s.packetsUnprotected asked := by
  cases kind <;> rfl

@[simp] theorem bytesUnprotected_countProtected :
    (s.countProtected kind bytes).bytesUnprotected = s.bytesUnprotected := by
  cases kind <;> rfl

@[simp] theorem packets_countProtected : (s.countProtected kind bytes).packets = s.packets + 1 := by
  cases kind <;> simp only [countProtected, packets] <;> omega

@[simp] theorem totalDrops_countProtected : (s.countProtected kind bytes).totalDrops = s.totalDrops := by
  cases kind <;> rfl

@[simp] theorem packetsProtected_countUnprotected :
    (s.countUnprotected kind bytes).packetsProtected asked = s.packetsProtected asked := by
  cases kind <;> rfl

@[simp] theorem bytesProtected_countUnprotected :
    (s.countUnprotected kind bytes).bytesProtected = s.bytesProtected := by
  cases kind <;> rfl

@[simp] theorem packetsUnprotected_countUnprotected :
    (s.countUnprotected kind bytes).packetsUnprotected asked =
      s.packetsUnprotected asked + if kind = asked then 1 else 0 := by
  cases kind <;> cases asked <;> rfl

@[simp] theorem bytesUnprotected_countUnprotected :
    (s.countUnprotected kind bytes).bytesUnprotected = s.bytesUnprotected + bytes := by
  cases kind <;> rfl

@[simp] theorem packets_countUnprotected : (s.countUnprotected kind bytes).packets = s.packets + 1 := by
  cases kind <;> simp only [countUnprotected, packets] <;> omega

@[simp] theorem totalDrops_countUnprotected : (s.countUnprotected kind bytes).totalDrops = s.totalDrops := by
  cases kind <;> rfl

end

end Stats

def Event.kind? : Event → Option PacketKind
  | .packetReceived kind _ _ => some kind
  | .readyToSend _ => none

def Event.text : Event → Bytes
  | .packetReceived _ text _ => text
  | .readyToSend _ => []

namespace Stats

/-- The counters agree with the packets that were recorded, the events that were emitted, and the number of packets
that were to go either way, some of which were refused below. -/
structure Reconciles (s : Stats) (sent : List RecordedPacket) (events : List Event) (refusals calls : Nat) : Prop where
  packetsProtected (kind : PacketKind) : s.packetsProtected kind = sent.countP fun p => p.kind = kind
  bytesProtected : s.bytesProtected = (sent.flatMap fun p => p.data).length
  packetsUnprotected (kind : PacketKind) : s.packetsUnprotected kind = events.countP fun e => e.kind? = some kind
  bytesUnprotected : s.bytesUnprotected = (events.flatMap Event.text).length
  calls : s.packets + s.totalDrops + refusals = calls

/-- The counters for what was taken grew by the packets and the bytes of these events. -/
structure Tallies (before after : Stats) (events : List Event) : Prop where
  packets (kind : PacketKind) : after.packetsUnprotected kind =
    before.packetsUnprotected kind + events.countP fun e => e.kind? = some kind
  bytes : after.bytesUnprotected = before.bytesUnprotected + (events.flatMap Event.text).length

variable {s : Stats} {sent : List RecordedPacket} {events : List Event} {refusals calls : Nat}

theorem reconciles_nil : Reconciles {} [] [] 0 0 where
  packetsProtected kind := by cases kind <;> rfl
  bytesProtected := rfl
  packetsUnprotected kind := by cases kind <;> rfl
  bytesUnprotected := rfl
  calls := rfl

namespace Reconciles

variable (h : s.Reconciles sent events refusals calls)

include h

theorem dropped {t : Stats}
    (hsame : { s with
      protectFailures := t.protectFailures
      unprotectFailures := t.unprotectFailures
      inactiveDrops := t.inactiveDrops } = t)
    (hdrops : t.totalDrops = s.totalDrops + 1) : t.Reconciles sent events refusals (calls + 1) := by
  have hpackets : t.packets = s.packets := by rw [← hsame, packets, packets]
  have hcalls : t.packets + t.totalDrops + refusals = calls + 1 := by
    rw [hpackets, hdrops, ← h.calls]
    omega
  rw [← hsame] at hcalls ⊢
  exact ⟨h.packetsProtected, h.bytesProtected, h.packetsUnprotected, h.bytesUnprotected, hcalls⟩

theorem inactive : s.countInactive.Reconciles sent events refusals (calls + 1) := h.dropped rfl rfl

theorem protectFailure : s.countProtectFailure.Reconciles sent events refusals (calls + 1) := by
  apply h.dropped rfl
  simp only [countProtectFailure, totalDrops]
  omega

theorem unprotectFailure : s.countUnprotectFailure.Reconciles sent events refusals (calls + 1) := by
  apply h.dropped rfl
  simp only [countUnprotectFailure, totalDrops]
  omega

theorem refusal : s.Reconciles sent events (refusals + 1) (calls + 1) where
  packetsProtected := h.packetsProtected
  bytesProtected := h.bytesProtected
  packetsUnprotected := h.packetsUnprotected
  bytesUnprotected := h.bytesUnprotected
  calls := congrArg (· + 1) h.calls

theorem recorded (packet : RecordedPacket) :
    (s.countProtected packet.kind packet.data.length).Reconciles (sent ++ [packet]) events refusals (calls + 1) where
  packetsProtected kind := by
    rw [packetsProtected_countProtected, h.packetsProtected, List.countP_append, List.countP_singleton]
    simp only [decide_eq_true_eq]
  bytesProtected := by simp [h.bytesProtected]
  packetsUnprotected kind := by simp [h.packetsUnprotected]
  bytesUnprotected := by simp [h.bytesUnprotected]
  calls := by
    rw [packets_countProtected, totalDrops_countProtected, ← h.calls]
    omega

theorem emitted (kind : PacketKind) (text : Bytes) (arrival : Option Instant) :
    (s.countUnprotected kind text.length).Reconciles sent (events ++ [.packetReceived kind text arrival]) refusals
      (calls + 1) where
  packetsProtected asked := by simp [h.packetsProtected]
  bytesProtected := by simp [h.bytesProtected]
  packetsUnprotected asked := by
    rw [packetsUnprotected_countUnprotected, h.packetsUnprotected, List.countP_append, List.countP_singleton]
    simp only [Event.kind?, Option.some.injEq, decide_eq_true_eq]
  bytesUnprotected := by simp [h.bytesUnprotected, Event.text]
  calls := by
    rw [packets_countUnprotected, totalDrops_countUnprotected, ← h.calls]
    omega

theorem ready (on : Bool) : s.Reconciles sent (events ++ [.readyToSend on]) refusals calls where
  packetsProtected := h.packetsProtected
  bytesProtected := h.bytesProtected
  packetsUnprotected kind := by
    rw [h.packetsUnprotected, List.countP_append, List.countP_singleton]
    rfl
  bytesUnprotected := by simp [h.bytesUnprotected, Event.text]
  calls := h.calls

theorem tallies {s' : Stats} {sent' : List RecordedPacket} {new : List Event} {refusals' calls' : Nat}
    (h' : s'.Reconciles sent' (events ++ new) refusals' calls') : s.Tallies s' new where
  packets kind := by rw [h'.packetsUnprotected, h.packetsUnprotected, List.countP_append]
  bytes := by rw [h'.bytesUnprotected, h.bytesUnprotected, List.flatMap_append, List.length_append]

end Reconciles

end Stats

namespace Sender

variable {s : Sender} {e : Error}

theorem isCryptoFailure_protectRtp (hc : s.crypto.Fits) {settings : Settings} {buffer : Bytes} {length : Nat}
    (he : (s.protectRtp settings buffer length).outcome = .error e) : e.isCryptoFailure = true := by
  cases hh : s.rtpHeader buffer length with
  | error e' =>
    rw [protectRtp, hh] at he
    cases he
    unfold rtpHeader at hh
    split at hh
    · cases hh
      rfl
    · split at hh
      · cases hh
        rfl
      · dsimp only at hh
        split at hh <;> cases hh
        rfl
  | ok h =>
    obtain ⟨text, spare, rfl, rfl, hroom, hr⟩ := exists_of_rtpHeader hh
    rw [protectRtp_append hc settings hr hroom] at he
    dsimp only at he
    split at he <;> cases he
    rfl

theorem isCryptoFailure_protectRtcp (hc : s.crypto.Fits) {buffer : Bytes} {length : Nat}
    (he : (s.protectRtcp buffer length).outcome = .error e) : e.isCryptoFailure = true := by
  cases hh : s.rtcpStream buffer length with
  | error e' =>
    rw [protectRtcp, hh] at he
    cases he
    unfold rtcpStream at hh
    dsimp only at hh
    split at hh
    · cases hh
      rfl
    · split at hh
      · cases hh
        rfl
      · split at hh <;> cases hh
        rfl
  | ok ssrc =>
    obtain ⟨header, payload, spare, rfl, hheader, rfl, hroom, hr⟩ := exists_of_rtcpStream hh
    rw [protectRtcp_append hc hheader hr hroom] at he
    dsimp only at he
    split at he <;> cases he
    rfl

end Sender

namespace Transport

theorem isCryptoFailure_ofReply {α : Type} {packet : PacketBuffer} {reply : PacketReply Session α} {length : α → Nat}
    {options : α → PacketOptions} (hr : ∀ e, reply.outcome = .error e → e.isCryptoFailure = true) {e : Error}
    (he : (Protected.ofReply packet reply length options).outcome = .error e) : e.isCryptoFailure = true := by
  unfold Protected.ofReply at he
  dsimp only at he
  split at he
  · rename_i e' ho
    cases he
    exact hr e ho
  · split at he
    · rename_i e' hl
      cases he
      unfold PacketBuffer.setLength at hl
      split at hl <;> cases hl
      rfl
    · cases he

theorem isCryptoFailure_protectWith {s : Session} {suite : Suite} {material : Bytes} (hk : s.Keyed .send suite material)
    {kind : PacketKind} {sendTimeId : Option UInt8} {packet : PacketBuffer} {options : PacketOptions} {e : Error}
    (he : (protectWith s kind sendTimeId packet options).outcome = .error e) : e.isCryptoFailure = true := by
  obtain ⟨sender, hs, hm⟩ := hk.sender
  have hc := (SessionCrypto.fits_of_ofMaterial hm).2
  unfold protectWith at he
  dsimp only at he
  split at he
  · cases he
    rfl
  · cases kind with
    | rtp =>
      dsimp only at he
      rw [protectRtp_eq_ofReply hs hc] at he
      apply isCryptoFailure_ofReply _ he
      intro e ho
      rw [Session.protectRtp_of_sending hs] at ho
      exact Sender.isCryptoFailure_protectRtp hc ho
    | rtcp =>
      apply isCryptoFailure_ofReply _ he
      intro e ho
      rw [Session.protectRtcp_of_sending hs] at ho
      exact Sender.isCryptoFailure_protectRtcp hc ho

inductive SendCounted (t : Transport Recorder) (kind : PacketKind) (s : Sent (Transport Recorder)) : Prop where
  | inactive (outcome : s.outcome = .error .inactive) (stats : s.carrier.stats = t.stats.countInactive)
      (sent : s.carrier.carrier.sent = t.carrier.sent)
  | failed {e : Error} (cause : e.isCryptoFailure = true) (outcome : s.outcome = .error e)
      (stats : s.carrier.stats = t.stats.countProtectFailure) (sent : s.carrier.carrier.sent = t.carrier.sent)
  | refused (failing : t.carrier.failing = true) (outcome : s.outcome = .error Recorder.refusal)
      (stats : s.carrier.stats = t.stats) (sent : s.carrier.carrier.sent = t.carrier.sent)
  | recorded (packet : RecordedPacket) (asked : packet.kind = kind) (outcome : s.outcome = .ok ())
      (stats : s.carrier.stats = t.stats.countProtected kind packet.data.length)
      (sent : s.carrier.carrier.sent = t.carrier.sent ++ [packet])

/-- What a call for a packet that arrived counts as, by its outcome. A packet that counts as taken is told to all who are
registered, and one that does not is told to nobody. -/
inductive ReceiveCounted (t : Transport Recorder) (kind : PacketKind) (packet : PacketBuffer) (arrival : Option Instant)
    (r : Received Recorder) : Prop where
  | inactive (outcome : r.outcome = .error .inactive) (stats : r.state.stats = t.stats.countInactive)
      (calls : r.calls = []) (listeners : r.state.listeners = t.listeners)
  | failed {e : Error} (cause : e.isCryptoFailure = true) (outcome : r.outcome = .error e)
      (stats : r.state.stats = t.stats.countUnprotectFailure) (calls : r.calls = [])
      (listeners : r.state.listeners = t.listeners)
  | emitted (outcome : r.outcome = .ok ())
      (stats : r.state.stats = t.stats.countUnprotected kind (t.textOf kind packet.packet).length)
      (told : t.listeners.Told (.packetReceived kind (t.textOf kind packet.packet) arrival) r.calls r.state.listeners)

def Counted (t : Transport Recorder) : Operation Recorder → Prop
  | .send kind packet options flags => t.SendCounted kind (t.send kind packet options flags)
  | .receive kind packet arrival => t.ReceiveCounted kind packet arrival (t.receive kind packet arrival)
  | operation => (t.perform operation).stats = t.stats

variable {t : Transport Recorder}

theorem sendCounted_send (ht : t.activation.Keyed) (kind : PacketKind) (packet : PacketBuffer)
    (options : PacketOptions) (flags : UInt32) : t.SendCounted kind (t.send kind packet options flags) := by
  obtain ⟨-, h⟩ | ⟨pair, hp, ⟨e, ho, h⟩ | ⟨sentOptions, -, h⟩⟩ := t.send_cases kind packet options flags <;> rw [h]
  · exact .inactive rfl rfl rfl
  · obtain ⟨suite, material, hk⟩ := (ht kind pair hp).send
    exact .failed (isCryptoFailure_protectWith hk ho) rfl rfl rfl
  · rw [handedDown]
    generalize protectWith pair.send kind t.sendTimeId packet options = p
    by_cases hf : t.carrier.failing = true
    · have hrefused : Carrier.send t.carrier kind p.packet sentOptions flags =
          { outcome := .error Recorder.refusal, packet := p.packet, carrier := t.carrier } := if_pos hf
      rw [hrefused]
      exact .refused hf rfl rfl rfl
    · have hrecorded : Carrier.send t.carrier kind p.packet sentOptions flags =
          { outcome := .ok (), packet := p.packet,
            carrier := { t.carrier with sent := t.carrier.sent ++ [⟨kind, p.packet.packet, sentOptions, flags⟩] } } :=
        if_neg hf
      rw [hrecorded]
      exact .recorded _ rfl rfl rfl rfl

theorem receiveCounted_receive (ht : t.Tracked) (kind : PacketKind) (packet : PacketBuffer)
    (arrival : Option Instant) : t.ReceiveCounted kind packet arrival (t.receive kind packet arrival) := by
  have hanswer := receiveAnswer_receive ht.keyed kind packet arrival
  generalize t.receive kind packet arrival = r at hanswer ⊢
  cases hanswer with
  | inactive notices => exact .inactive rfl rfl rfl rfl
  | failed he activation notices => exact .failed he rfl rfl rfl rfl
  | emitted activation notices => exact .emitted rfl rfl (ht.wellFormed.told_emit _)

def Operation.isPacketCall {τ : Type} : Operation τ → Bool
  | .send .. | .receive .. => true
  | _ => false

/-- Whoever shares the recorder may make it refuse packets or accept them again, but leaves alone what it holds. -/
def Operation.KeepsRecord : Operation Recorder → Prop
  | .modifyCarrier f => ∀ r, (f r).sent = r.sent
  | _ => True

def refuses (t : Transport Recorder) : Operation Recorder → Bool
  | .send kind packet options flags =>
    match (t.send kind packet options flags).outcome with
    | .error e => e = Recorder.refusal
    | .ok () => false
  | _ => false

def refusals (t : Transport Recorder) : List (Operation Recorder) → Nat
  | [] => 0
  | operation :: past => t.refusals past + if (t.after past).refuses operation then 1 else 0

def Totals (t : Transport Recorder) (operations : List (Operation Recorder)) : Prop :=
  (t.after operations).stats.Reconciles (t.after operations).carrier.sent (t.gathered emission operations)
    (t.refusals operations) (operations.countP (·.isPacketCall))

/-- The totals of a run, and what each listener got of it. From its registration until its removal an observer was called
with as many packets and bytes as the counters grew by, and a receiver that is still held took them or has them waiting. -/
structure Reconciled (t : Transport Recorder) (operations : List (Operation Recorder)) : Prop where
  totals : t.Totals operations
  observer {id : ListenerId} {past during later : List (Operation Recorder)}
    (h : t.Interval id .observe operations past during later) :
    (t.after past).stats.Tallies (t.after (during ++ .observe :: past)).stats (t.gathered (heardBy id) operations)
  receiver {id : ListenerId} {past during later : List (Operation Recorder)}
    (h : t.Interval id .subscribe operations past during later) :
    let receiver := (t.after past).listeners.subscribe.2.2
    .dropReceiver receiver ∉ later ++ during →
      ∃ waiting, (t.after operations).listeners.mailbox receiver = .held waiting ∧
        (t.after past).stats.Tallies (t.after (during ++ .subscribe :: past)).stats
          (t.gathered (takenFrom receiver) operations ++ waiting)

def Operation.onCarrier {τ : Type} [Carrier τ] : Operation τ → τ → τ
  | .setRtcpMux on, carrier => Carrier.setRtcpMux carrier on
  | .modifyCarrier f, carrier => f carrier
  | _, carrier => carrier

theorem Operation.KeepsRecord.sent_onCarrier {operation : Operation Recorder} (h : operation.KeepsRecord)
    (r : Recorder) : (operation.onCarrier r).sent = r.sent := by
  cases operation with
  | modifyCarrier f => exact h r
  | _ => rfl

theorem perform_of_not_isPacketCall {τ : Type} [Carrier τ] {t : Transport τ} {operation : Operation τ}
    (hop : operation.isPacketCall = false) :
    (t.perform operation).stats = t.stats ∧ (t.perform operation).carrier = operation.onCarrier t.carrier := by
  cases operation with
  | send kind packet options flags => cases hop
  | receive kind packet arrival => cases hop
  | setRtpParams params =>
    obtain ⟨activation, h⟩ := t.exists_setRtpParams params
    rw [perform, h]
    exact ⟨rfl, rfl⟩
  | setRtcpParams params =>
    obtain ⟨activation, h⟩ := t.exists_setRtcpParams params
    rw [perform, h]
    exact ⟨rfl, rfl⟩
  | setEncryptedIds source ids => cases source <;> exact ⟨rfl, rfl⟩
  | enableExternalAuth =>
    obtain ⟨externalAuth, he⟩ := t.exists_enableExternalAuth
    rw [perform, he]
    exact ⟨rfl, rfl⟩
  | _ => exact ⟨rfl, rfl⟩

theorem counters_perform_le {τ : Type} [Carrier τ] (t : Transport τ) (operation : Operation τ) :
    (t.perform operation).stats.packets + (t.perform operation).stats.totalDrops ≤
      t.stats.packets + t.stats.totalDrops + if operation.isPacketCall then 1 else 0 := by
  have hinactive : t.stats.countInactive.packets + t.stats.countInactive.totalDrops ≤
      t.stats.packets + t.stats.totalDrops + 1 := Nat.le_refl _
  cases hop : operation.isPacketCall with
  | false =>
    rw [(perform_of_not_isPacketCall hop).1]
    exact Nat.le_refl _
  | true =>
    cases operation with
    | send kind packet options flags =>
      rw [perform]
      obtain ⟨-, h⟩ | ⟨pair, -, ⟨e, -, h⟩ | ⟨sentOptions, -, h⟩⟩ := t.send_cases kind packet options flags <;> rw [h]
      · exact hinactive
      · simp only [Stats.countProtectFailure, Stats.packets, Stats.totalDrops, if_true]
        omega
      · rw [handedDown]
        dsimp only
        split
        · rw [Stats.packets_countProtected, Stats.totalDrops_countProtected, if_pos rfl]
          omega
        · exact Nat.le_succ _
    | receive kind packet arrival =>
      rw [perform]
      obtain ⟨-, h⟩ | ⟨pair, -, ⟨e, -, h⟩ | ⟨-, h⟩⟩ := t.receive_cases kind packet arrival <;> rw [h]
      · exact hinactive
      · simp only [Stats.countUnprotectFailure, Stats.packets, Stats.totalDrops, if_true]
        omega
      · rw [emit]
        dsimp only
        rw [Stats.packets_countUnprotected, Stats.totalDrops_countUnprotected, if_pos rfl]
        omega
    | _ => cases hop

theorem counters_after_le {τ : Type} [Carrier τ] (t : Transport τ) (operations : List (Operation τ)) :
    (t.after operations).stats.packets + (t.after operations).stats.totalDrops ≤
      t.stats.packets + t.stats.totalDrops + operations.countP (·.isPacketCall) := by
  induction operations with
  | nil => exact Nat.le_refl _
  | cons operation past ih =>
    have hone := (t.after past).counters_perform_le operation
    rw [after, List.countP_cons]
    omega

theorem emission_of_not_isPacketCall {operation : Operation Recorder} (hop : operation.isPacketCall = false) :
    t.emission operation = [] ∨ ∃ on, t.emission operation = [.readyToSend on] := by
  cases operation with
  | receive kind packet arrival => cases hop
  | ready on => exact .inr ⟨on, rfl⟩
  | _ => exact .inl rfl

theorem refuses_of_not_isPacketCall {operation : Operation Recorder} (hop : operation.isPacketCall = false) :
    t.refuses operation = false := by
  cases operation with
  | send kind packet options flags => cases hop
  | _ => rfl

theorem counted (ht : t.Tracked) (operation : Operation Recorder) : t.Counted operation := by
  cases operation with
  | send kind packet options flags => exact sendCounted_send ht.keyed kind packet options flags
  | receive kind packet arrival => exact receiveCounted_receive ht kind packet arrival
  | _ => exact (perform_of_not_isPacketCall rfl).1

variable {past : List (Operation Recorder)}

theorem totals_of_not_isPacketCall (h : t.Totals past) {operation : Operation Recorder}
    (hop : operation.isPacketCall = false) (hkeep : operation.KeepsRecord) : t.Totals (operation :: past) := by
  obtain ⟨hstats, hcarrier⟩ := perform_of_not_isPacketCall (t := t.after past) hop
  have hrefusals : t.refusals (operation :: past) = t.refusals past := by
    rw [refusals, refuses_of_not_isPacketCall hop]
    rfl
  rw [Totals, after, gathered, hrefusals, hstats, hcarrier, hkeep.sent_onCarrier,
    List.countP_cons_of_neg (by rw [hop]; exact Bool.false_ne_true)]
  obtain hnone | ⟨on, hon⟩ := emission_of_not_isPacketCall (t := t.after past) hop
  · rw [hnone, List.append_nil]
    exact h
  · rw [hon]
    exact h.ready on

theorem totals_send (h : t.Totals past) (ht : (t.after past).activation.Keyed) (kind : PacketKind)
    (packet : PacketBuffer) (options : PacketOptions) (flags : UInt32) :
    t.Totals (.send kind packet options flags :: past) := by
  have hcounted := sendCounted_send ht kind packet options flags
  have hrefuses : (t.after past).refuses (.send kind packet options flags) =
      match ((t.after past).send kind packet options flags).outcome with
      | .error e => e = Recorder.refusal
      | .ok () => false := rfl
  have hevents : t.gathered emission (.send kind packet options flags :: past) = t.gathered emission past :=
    List.append_nil _
  rw [Totals, after, perform, hevents, refusals, hrefuses, List.countP_cons_of_pos rfl]
  generalize (t.after past).send kind packet options flags = s at hcounted ⊢
  cases hcounted with
  | inactive outcome stats sent =>
    rw [outcome, stats, sent]
    exact h.inactive
  | failed cause outcome stats sent =>
    rename_i e
    have hother : e ≠ Recorder.refusal := by
      rintro rfl
      cases cause
    rw [outcome, stats, sent]
    simp only [hother, decide_false, Bool.false_eq_true, if_false]
    exact h.protectFailure
  | refused failing outcome stats sent =>
    rw [outcome, stats, sent]
    exact h.refusal
  | recorded recorded asked outcome stats sent =>
    rw [outcome, stats, sent, ← asked]
    exact h.recorded recorded

theorem totals_receive (h : t.Totals past) (ht : (t.after past).activation.Keyed) (kind : PacketKind)
    (packet : PacketBuffer) (arrival : Option Instant) : t.Totals (.receive kind packet arrival :: past) := by
  have hanswer := receiveAnswer_receive ht kind packet arrival
  have hrefusals : t.refusals (.receive kind packet arrival :: past) = t.refusals past := rfl
  rw [Totals, after, perform, gathered, emission, hrefusals, List.countP_cons_of_pos rfl]
  generalize (t.after past).receive kind packet arrival = r at hanswer ⊢
  cases hanswer with
  | inactive notices =>
    dsimp only
    rw [List.append_nil]
    exact h.inactive
  | failed he activation notices =>
    dsimp only
    rw [List.append_nil]
    exact h.unprotectFailure
  | emitted activation notices => exact h.emitted kind _ arrival

theorem totals_perform (h : t.Totals past) (ht : (t.after past).activation.Keyed)
    {operation : Operation Recorder} (hkeep : operation.KeepsRecord) : t.Totals (operation :: past) := by
  cases hop : operation.isPacketCall with
  | false => exact totals_of_not_isPacketCall h hop hkeep
  | true =>
    cases operation with
    | send kind packet options flags => exact totals_send h ht kind packet options flags
    | receive kind packet arrival => exact totals_receive h ht kind packet arrival
    | _ => cases hop

theorem ofConfig_eq (recorder : Recorder) (config : TransportConfig) :
    (ofConfig recorder config).1.stats = {} ∧ (ofConfig recorder config).1.carrier.sent = recorder.sent := by
  refine ⟨rfl, ?_⟩
  cases hm : config.rtcpMux with
  | none => simp only [ofConfig, hm]
  | some on =>
    simp only [ofConfig, hm]
    rfl

theorem totals_after {recorder : Recorder} (hempty : recorder.sent = []) (config : TransportConfig)
    {operations : List (Operation Recorder)} (hkeep : ∀ operation ∈ operations, operation.KeepsRecord) :
    (ofConfig recorder config).1.Totals operations := by
  induction operations with
  | nil =>
    obtain ⟨hstats, hsent⟩ := ofConfig_eq recorder config
    rw [Totals, after, hstats, hsent, hempty]
    exact Stats.reconciles_nil
  | cons operation past ih =>
    obtain ⟨hfirst, hothers⟩ := List.forall_mem_cons.mp hkeep
    exact totals_perform (ih hothers) (Reachable.keyed ⟨recorder, config, past, rfl⟩) hfirst

theorem stats_fit {recorder : Recorder} (hempty : recorder.sent = []) (config : TransportConfig)
    {operations : List (Operation Recorder)} (hkeep : ∀ operation ∈ operations, operation.KeepsRecord)
    (hcalls : operations.countP (·.isPacketCall) < UInt64.size) :
    let t := (ofConfig recorder config).1
    ((t.after operations).carrier.sent.flatMap fun p => p.data).length < UInt64.size →
      ((t.gathered emission operations).flatMap Event.text).length < UInt64.size → (t.after operations).stats.Fits := by
  intro t hsent hevents
  have htotals : t.Totals operations := totals_after hempty config hkeep
  have hle := t.counters_after_le operations
  have hstart : t.stats.packets + t.stats.totalDrops = 0 := rfl
  constructor
  · omega
  · omega
  · rw [htotals.bytesProtected]
    exact hsent
  · rw [htotals.bytesUnprotected]
    exact hevents

theorem tallies_of_totals {past during : List (Operation Recorder)} {registration : Operation Recorder}
    (hpast : t.Totals past) (hnow : t.Totals (during ++ registration :: past))
    (hsilent : (t.after past).emission registration = []) :
    (t.after past).stats.Tallies (t.after (during ++ registration :: past)).stats
      ((t.after (registration :: past)).gathered emission during) := by
  have hevents : t.gathered emission (during ++ registration :: past) =
      t.gathered emission past ++ (t.after (registration :: past)).gathered emission during := by
    rw [gathered_append, gathered, hsilent, List.append_nil]
  rw [Totals, hevents] at hnow
  exact hpast.tallies hnow

/-- Each operation counts as what its outcome says, and at any time the counters agree with what was recorded and with
what the listeners were told so far. -/
theorem stats_reconcile {recorder : Recorder} (hempty : recorder.sent = []) (config : TransportConfig)
    {operations : List (Operation Recorder)} (hkeep : ∀ operation ∈ operations, operation.KeepsRecord) :
    let t := (ofConfig recorder config).1
    (∀ operation, (t.after operations).Counted operation) ∧ t.Reconciled operations := by
  intro t
  have ht : t.Tracked := tracked_ofConfig recorder config
  have htallies {past during later : List (Operation Recorder)} {registration : Operation Recorder}
      (hrun : operations = later ++ (during ++ registration :: past))
      (hsilent : (t.after past).emission registration = []) :
      (t.after past).stats.Tallies (t.after (during ++ registration :: past)).stats
        ((t.after (registration :: past)).gathered emission during) := by
    subst hrun
    have hpart := (List.forall_mem_append.mp hkeep).2
    have hpast := (List.forall_mem_cons.mp (List.forall_mem_append.mp hpart).2).2
    exact tallies_of_totals (totals_after hempty config hpast) (totals_after hempty config hpart) hsilent
  refine ⟨fun operation => counted (ht.after operations) operation, totals_after hempty config hkeep, ?_, ?_⟩
  · intro id past during later h
    rw [h.heard ht]
    exact htallies h.run rfl
  · intro id past during later h receiver hkept
    obtain ⟨waiting, hwaiting, htaken⟩ := h.taken ht hkept
    refine ⟨waiting, hwaiting, ?_⟩
    rw [htaken]
    exact htallies h.run rfl

theorem stats_reconcile_over_a_refusal :
    let params : KeyParams := ⟨.aesCm128HmacSha1_80, zeros 30, .aesCm128HmacSha1_80, zeros 30⟩
    let send : Operation Recorder := .send .rtp ⟨0x80 :: zeros 11, zeros 10⟩ {} 0
    let fail : Operation Recorder := .modifyCarrier fun r => { r with failing := true }
    let t := (ofConfig ({} : Recorder) {}).1
    let run := [send, fail, send, .setRtpParams params, send, .ready true, .observe]
    ({} : Recorder).sent = [] ∧ (∀ operation ∈ run, operation.KeepsRecord) ∧
      (∀ operation, (t.after run).Counted operation) ∧ t.Reconciled run ∧
      t.gathered (heardBy ⟨0⟩) run = [.readyToSend true] ∧
      (t.after []).stats.Tallies (t.after run).stats (t.gathered (heardBy ⟨0⟩) run) := by
  intro params send fail t run
  have hkeep : ∀ operation ∈ run, operation.KeepsRecord := by
    simp [run, send, fail, Operation.KeepsRecord]
  have hempty : ({} : Recorder).sent = [] := rfl
  obtain ⟨hcounted, hreconciled⟩ := stats_reconcile hempty {} hkeep
  have hinterval : t.Interval ⟨0⟩ .observe run [] [send, fail, send, .setRtpParams params, send, .ready true] [] :=
    ⟨rfl, rfl, by simp [send, fail], .inl rfl⟩
  exact ⟨hempty, hkeep, hcounted, hreconciled, rfl, hreconciled.observer hinterval⟩

end Transport

end SecureRtp
