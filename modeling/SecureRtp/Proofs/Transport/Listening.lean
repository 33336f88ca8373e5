import SecureRtp.Proofs.Listeners
import SecureRtp.Proofs.Transport.Emission
/-!
Who hears what in a run of a transport. A listener hears the events between its registration and its removal, each once
and in order, whatever becomes of other listeners and of packets that fail.
-/
namespace SecureRtp.Transport

variable {τ : Type} {t : Transport τ} {id : ListenerId} {receiver : ReceiverId}

def callsOf (t : Transport τ) : Operation τ → List (ListenerId × Event)
  | .receive kind packet arrival => (t.receive kind packet arrival).calls
  | .ready on => (t.ready on).calls
  | _ => []

def heardBy (id : ListenerId) (t : Transport τ) (operation : Operation τ) : List Event :=
  eventsTo id (t.callsOf operation)

def handedOut? (t : Transport τ) : Operation τ → Option ListenerId
  | .observe => some t.listeners.observe.2
  | .subscribe => some t.listeners.subscribe.2.1
  | _ => none

def handedOut (t : Transport τ) (operation : Operation τ) : List ListenerId := (t.handedOut? operation).toList

def takenFrom (receiver : ReceiverId) (t : Transport τ) : Operation τ → List Event
  | .drain asked => if asked = receiver then (t.listeners.drain asked).2 else []
  | _ => []

def action (t : Transport τ) : Operation τ → Listeners.Action
  | .receive kind packet arrival =>
    match (t.receive kind packet arrival).outcome with
    | .ok () => .emit (.packetReceived kind (t.textOf kind packet.packet) arrival)
    | .error _ => .idle
  | .ready on => .emit (.readyToSend on)
  | .observe => .observe
  | .subscribe => .subscribe
  | .remove id => .remove id
  | .drain receiver => .drain receiver
  | .dropReceiver receiver => .dropReceiver receiver
  | _ => .idle

theorem action_ne_remove {operation : Operation τ} (h : .remove id ≠ operation) :
    t.action operation ≠ .remove id := by
  cases operation with
  | remove other =>
    rintro heq
    cases heq
    exact h rfl
  | receive kind packet arrival =>
    rw [action]
    split <;> exact nofun
  | _ => exact nofun

theorem action_ne_dropReceiver {operation : Operation τ} (h : .dropReceiver receiver ≠ operation) :
    t.action operation ≠ .dropReceiver receiver := by
  cases operation with
  | dropReceiver other =>
    rintro heq
    cases heq
    exact h rfl
  | receive kind packet arrival =>
    rw [action]
    split <;> exact nofun
  | _ => exact nofun

theorem handedOut?_eq (t : Transport τ) (operation : Operation τ) :
    t.handedOut? operation = t.listeners.handedOut? (t.action operation) := by
  cases operation with
  | receive kind packet arrival =>
    rw [action]
    split <;> rfl
  | _ => rfl

theorem takenFrom_eq (t : Transport τ) (receiver : ReceiverId) (operation : Operation τ) :
    t.takenFrom receiver operation = t.listeners.takenFrom receiver (t.action operation) := by
  cases operation with
  | receive kind packet arrival =>
    rw [action]
    split <;> rfl
  | _ => rfl

theorem emission_eq (t : Transport τ) (operation : Operation τ) :
    t.emission operation = (t.action operation).emission := by
  cases operation with
  | receive kind packet arrival =>
    rw [action, emission]
    cases (t.receive kind packet arrival).outcome <;> rfl
  | _ => rfl

structure Tracked (t : Transport τ) : Prop where
  keyed : t.activation.Keyed
  wellFormed : t.listeners.WellFormed

theorem Tracked.callsOf_eq (ht : t.Tracked) (operation : Operation τ) :
    t.callsOf operation = t.listeners.callsOf (t.action operation) := by
  cases operation with
  | receive kind packet arrival =>
    have hanswer := receiveAnswer_receive ht.keyed kind packet arrival
    rw [action, callsOf]
    generalize t.receive kind packet arrival = r at hanswer ⊢
    cases hanswer <;> rfl
  | _ => rfl

variable [Carrier τ]

theorem Tracked.listeners_perform (ht : t.Tracked) (operation : Operation τ) :
    (t.perform operation).listeners = t.listeners.act (t.action operation) := by
  cases operation with
  | receive kind packet arrival =>
    have hanswer := receiveAnswer_receive ht.keyed kind packet arrival
    rw [action, perform]
    generalize t.receive kind packet arrival = r at hanswer ⊢
    cases hanswer <;> rfl
  | setRtpParams params =>
    obtain ⟨activation, h⟩ := t.exists_setRtpParams params
    rw [perform, h]
    rfl
  | setRtcpParams params =>
    obtain ⟨activation, h⟩ := t.exists_setRtcpParams params
    rw [perform, h]
    rfl
  | setEncryptedIds source ids => cases source <;> rfl
  | enableExternalAuth =>
    obtain ⟨externalAuth, he⟩ := t.exists_enableExternalAuth
    rw [perform, he]
    rfl
  | send kind packet options flags =>
    rw [perform]
    cases hp : t.activation.sessions? kind with
    | none =>
      rw [send_of_inactive hp]
      rfl
    | some pair =>
      obtain ⟨carrier, stats, hs⟩ := exists_send hp packet options flags
      rw [hs]
      rfl
  | _ => rfl

theorem Tracked.perform (ht : t.Tracked) (operation : Operation τ) : (t.perform operation).Tracked := by
  refine ⟨keyed_perform ht.keyed operation, ?_⟩
  rw [ht.listeners_perform]
  exact ht.wellFormed.act _

theorem Tracked.after (ht : t.Tracked) (operations : List (Operation τ)) : (t.after operations).Tracked := by
  induction operations with
  | nil => exact ht
  | cons operation past ih => exact ih.perform operation

theorem tracked_ofConfig (carrier : τ) (config : TransportConfig) : (ofConfig carrier config).1.Tracked :=
  ⟨Activation.keyed_unconfigured, Listeners.wellFormed_empty⟩

section

variable (ht : t.Tracked)

include ht

theorem heard_before (operations : List (Operation τ)) (hid : (t.after operations).listeners.nextId ≤ id.value) :
    t.gathered (heardBy id) operations = [] := by
  induction operations with
  | nil => rfl
  | cons operation past ih =>
    have hpast := ht.after past
    have hle : (t.after past).listeners.nextId ≤ id.value := by
      rw [Transport.after, hpast.listeners_perform, Listeners.nextId_act] at hid
      omega
    have hnone : ∀ sink, (id, sink) ∉ (t.after past).listeners.entries := by
      intro sink hm
      exact Nat.not_lt_of_le hle (hpast.wellFormed.handed _ hm)
    rw [gathered, ih hle, heardBy, hpast.callsOf_eq, Listeners.eventsTo_callsOf_of_not_mem hnone]
    rfl

theorem mem_after {sink : Sink} (hm : (id, sink) ∈ t.listeners.entries) {during : List (Operation τ)}
    (hkept : .remove id ∉ during) : (id, sink) ∈ (t.after during).listeners.entries := by
  induction during with
  | nil => exact hm
  | cons operation past ih =>
    rw [Transport.after, (ht.after past).listeners_perform]
    apply Listeners.mem_act (ih (List.not_mem_of_not_mem_cons hkept))
    exact action_ne_remove (List.ne_of_not_mem_cons hkept)

theorem heard_while_registered (hm : (id, .observer) ∈ t.listeners.entries) {during : List (Operation τ)}
    (hkept : .remove id ∉ during) : t.gathered (heardBy id) during = t.gathered emission during := by
  induction during with
  | nil => rfl
  | cons operation past ih =>
    have hkeptPast := List.not_mem_of_not_mem_cons hkept
    have hpast := ht.after past
    rw [gathered, gathered, ih hkeptPast, heardBy, hpast.callsOf_eq,
      Listeners.eventsTo_callsOf_of_mem hpast.wellFormed (mem_after ht hm hkeptPast), emission_eq]

theorem heard_after_removal (hid : id.value < t.listeners.nextId) (hm : ∀ sink, (id, sink) ∉ t.listeners.entries)
    (later : List (Operation τ)) :
    id.value < (t.after later).listeners.nextId ∧ (∀ sink, (id, sink) ∉ (t.after later).listeners.entries) ∧
      t.gathered (heardBy id) later = [] := by
  induction later with
  | nil => exact ⟨hid, hm, rfl⟩
  | cons operation past ih =>
    obtain ⟨hid, hm, hheard⟩ := ih
    have hpast := ht.after past
    rw [Transport.after, hpast.listeners_perform, gathered, hheard, heardBy, hpast.callsOf_eq,
      Listeners.eventsTo_callsOf_of_not_mem hm]
    refine ⟨?_, Listeners.not_mem_act hid hm _, rfl⟩
    rw [Listeners.nextId_act]
    omega

theorem taken_before (operations : List (Operation τ))
    (hreceiver : (t.after operations).listeners.mailboxes.length ≤ receiver.value) :
    t.gathered (takenFrom receiver) operations = [] := by
  induction operations with
  | nil => rfl
  | cons operation past ih =>
    have hpast := ht.after past
    rw [Transport.after, hpast.listeners_perform] at hreceiver
    have hle := Nat.le_trans (Listeners.length_mailboxes_act _ _) hreceiver
    rw [gathered, ih hle, takenFrom_eq, Listeners.takenFrom_of_le hle]
    rfl

variable {waiting : List Event} (hheld : t.listeners.mailbox receiver = .held waiting)

include hheld

theorem taken_while_registered (hm : (id, .channel receiver) ∈ t.listeners.entries) {during : List (Operation τ)}
    (hkept : .remove id ∉ during) (hkeep : .dropReceiver receiver ∉ during) :
    ∃ rest, (t.after during).listeners.mailbox receiver = .held rest ∧
      t.gathered (takenFrom receiver) during ++ rest = waiting ++ t.gathered emission during := by
  induction during with
  | nil => exact ⟨waiting, hheld, (List.append_nil _).symm⟩
  | cons operation past ih =>
    have hkeptPast := List.not_mem_of_not_mem_cons hkept
    have hpast := ht.after past
    obtain ⟨rest, hrest, htaken⟩ := ih hkeptPast (List.not_mem_of_not_mem_cons hkeep)
    obtain ⟨last, hlast, hgiven⟩ := hpast.wellFormed.held_act_of_mem (mem_after ht hm hkeptPast) hrest
      (action_ne_dropReceiver (List.ne_of_not_mem_cons hkeep))
    rw [Transport.after, hpast.listeners_perform, gathered, gathered, takenFrom_eq, emission_eq]
    refine ⟨last, hlast, ?_⟩
    rw [List.append_assoc, hgiven, ← List.append_assoc, htaken, List.append_assoc]

theorem taken_after_removal (hm : ∀ id, (id, .channel receiver) ∉ t.listeners.entries) {later : List (Operation τ)}
    (hkeep : .dropReceiver receiver ∉ later) :
    (∀ id, (id, .channel receiver) ∉ (t.after later).listeners.entries) ∧
      ∃ rest, (t.after later).listeners.mailbox receiver = .held rest ∧
        t.gathered (takenFrom receiver) later ++ rest = waiting := by
  induction later with
  | nil => exact ⟨hm, waiting, hheld, rfl⟩
  | cons operation past ih =>
    obtain ⟨hnone, rest, hrest, htaken⟩ := ih (List.not_mem_of_not_mem_cons hkeep)
    have hpast := ht.after past
    obtain ⟨last, hlast, hgiven⟩ := Listeners.held_act_of_not_mem hnone hrest
      (action_ne_dropReceiver (List.ne_of_not_mem_cons hkeep))
    rw [Transport.after, hpast.listeners_perform, gathered, takenFrom_eq]
    refine ⟨Listeners.channel_not_mem_act (Listeners.lt_of_held _ hrest) hnone _, last, hlast, ?_⟩
    rw [List.append_assoc, hgiven, htaken]

end

theorem nextId_after_le (ht : t.Tracked) (operations : List (Operation τ)) :
    (t.after operations).listeners.nextId ≤ t.listeners.nextId + operations.length := by
  induction operations with
  | nil => exact Nat.le_refl _
  | cons operation past ih =>
    have hone : (((t.after past).listeners.handedOut? ((t.after past).action operation)).toList).length ≤ 1 :=
      Option.length_toList_le
    rw [after, (ht.after past).listeners_perform, Listeners.nextId_act, List.length_cons]
    omega

theorem handedOut_sorted (ht : t.Tracked) (operations : List (Operation τ)) :
    (t.gathered handedOut operations).Pairwise (fun a b => a.value < b.value) ∧
      ∀ id ∈ t.gathered handedOut operations, id.value < (t.after operations).listeners.nextId := by
  induction operations with
  | nil => exact ⟨.nil, nofun⟩
  | cons operation past ih =>
    obtain ⟨hsorted, hbelow⟩ := ih
    have hpast := ht.after past
    rw [gathered, handedOut, handedOut?_eq, Transport.after, hpast.listeners_perform, Listeners.nextId_act]
    cases hid : (t.after past).listeners.handedOut? ((t.after past).action operation) with
    | none =>
      rw [Option.toList_none, List.append_nil]
      exact ⟨hsorted, hbelow⟩
    | some new =>
      obtain rfl := Listeners.eq_of_handedOut? hid
      rw [Option.toList_some]
      constructor
      · apply List.pairwise_append.mpr
        refine ⟨hsorted, List.pairwise_singleton _ _, ?_⟩
        intro a ha b hb
        rw [List.mem_singleton.mp hb]
        exact hbelow a ha
      · intro id hm
        obtain hm | hm := List.mem_append.mp hm
        · exact Nat.lt_succ_of_lt (hbelow id hm)
        · rw [List.mem_singleton.mp hm]
          exact Nat.lt_succ_self _

/-- A registration in a run: what came before it, then until the removal, and from the removal on. -/
structure Interval (t : Transport τ) (id : ListenerId) (registration : Operation τ)
    (operations past during later : List (Operation τ)) : Prop where
  run : operations = later ++ (during ++ registration :: past)
  handed : (t.after past).handedOut? registration = some id
  kept : .remove id ∉ during
  removed : later = [] ∨ ∃ rest, later = rest ++ [.remove id]

structure Hears (t : Transport τ) (operations : List (Operation τ)) : Prop where
  ids : (t.gathered handedOut operations).Pairwise fun a b => a.value < b.value
  removal (id : ListenerId) : ((t.after operations).listeners.remove id).2 = true ↔
    ∃ registration past during, t.Interval id registration operations past during []
  observer {id : ListenerId} {past during later : List (Operation τ)}
    (h : t.Interval id .observe operations past during later) :
    t.gathered (heardBy id) operations = (t.after (.observe :: past)).gathered emission during
  receiver {id : ListenerId} {past during later : List (Operation τ)}
    (h : t.Interval id .subscribe operations past during later) :
    let receiver := (t.after past).listeners.subscribe.2.2
    .dropReceiver receiver ∉ later ++ during →
      ∃ waiting, (t.after operations).listeners.mailbox receiver = .held waiting ∧
        t.gathered (takenFrom receiver) operations ++ waiting =
          (t.after (.subscribe :: past)).gathered emission during
  order (operation : Operation τ) :
    ((t.after operations).callsOf operation).Pairwise fun a b => a.1.value < b.1.value
  told (operation : Operation τ) {event : Event} (h : event ∈ (t.after operations).emission operation) :
    (t.after operations).listeners.Told event ((t.after operations).callsOf operation)
      ((t.after operations).perform operation).listeners
  errors {kind : PacketKind} {packet : PacketBuffer} {arrival : Option Instant} {e : Error}
    (he : ((t.after operations).receive kind packet arrival).outcome = .error e) :
    ((t.after operations).receive kind packet arrival).calls = [] ∧
      ((t.after operations).receive kind packet arrival).state.listeners = (t.after operations).listeners

theorem exists_interval_iff (ht : t.Tracked) (hempty : t.listeners.entries = []) (operations : List (Operation τ))
    (id : ListenerId) : (∃ sink, (id, sink) ∈ (t.after operations).listeners.entries) ↔
      ∃ registration past during, t.Interval id registration operations past during [] := by
  constructor
  · rintro ⟨sink, hm⟩
    induction operations with
    | nil =>
      rw [after, hempty] at hm
      cases hm
    | cons operation past ih =>
      have hpast := ht.after past
      rw [after, hpast.listeners_perform] at hm
      obtain ⟨hm, hne⟩ | hhanded := Listeners.of_mem_act hm
      · obtain ⟨registration, before, during, rfl, hhanded, hkept, -⟩ := ih hm
        refine ⟨registration, before, operation :: during, rfl, hhanded, ?_, .inl rfl⟩
        intro hin
        obtain rfl | hin := List.mem_cons.mp hin
        · exact hne rfl
        · exact hkept hin
      · rw [← handedOut?_eq] at hhanded
        exact ⟨operation, past, [], rfl, hhanded, List.not_mem_nil, .inl rfl⟩
  · rintro ⟨registration, past, during, rfl, hhanded, hkept, -⟩
    have hpast := ht.after past
    rw [handedOut?_eq] at hhanded
    obtain ⟨sink, hm⟩ := Listeners.exists_mem_of_handedOut? hhanded
    rw [← hpast.listeners_perform] at hm
    refine ⟨sink, ?_⟩
    rw [List.nil_append, after_append]
    exact mem_after (hpast.perform registration) hm hkept

theorem heard_after_interval (ht : t.Tracked) (hid : id.value < t.listeners.nextId) {later : List (Operation τ)}
    (hlater : later = [] ∨ ∃ rest, later = rest ++ [.remove id]) : t.gathered (heardBy id) later = [] := by
  obtain rfl | ⟨rest, rfl⟩ := hlater
  · rfl
  · have hremoved := ht.perform (.remove id)
    have hnone := t.listeners.not_mem_remove id
    rw [gathered_append]
    exact (heard_after_removal hremoved hid hnone rest).2.2

theorem Interval.heard {operations past during later : List (Operation τ)} (ht : t.Tracked)
    (h : t.Interval id .observe operations past during later) :
    t.gathered (heardBy id) operations = (t.after (.observe :: past)).gathered emission during := by
  obtain ⟨rfl, hhanded, hkept, hremoved⟩ := h
  obtain rfl : id = ⟨(t.after past).listeners.nextId⟩ := (Option.some.inj hhanded).symm
  have hpast := ht.after past
  have hobserving := ht.after (.observe :: past)
  have hmem : (⟨(t.after past).listeners.nextId⟩, .observer) ∈ (t.after (.observe :: past)).listeners.entries :=
    List.mem_append_right _ (List.mem_singleton_self _)
  have hid := (hobserving.after during).wellFormed.handed _ (mem_after hobserving hmem hkept)
  have hbefore : t.gathered (heardBy ⟨(t.after past).listeners.nextId⟩) (.observe :: past) = [] := by
    rw [gathered, heard_before ht past (Nat.le_refl _)]
    rfl
  rw [gathered_append, gathered_append, hbefore, after_append,
    heard_after_interval (hobserving.after during) hid hremoved, heard_while_registered hobserving hmem hkept,
    List.nil_append, List.append_nil]

theorem taken_after_interval (ht : t.Tracked) (hm : (id, .channel receiver) ∈ t.listeners.entries)
    {waiting : List Event} (hheld : t.listeners.mailbox receiver = .held waiting) {later : List (Operation τ)}
    (hlater : later = [] ∨ ∃ rest, later = rest ++ [.remove id]) (hkeep : .dropReceiver receiver ∉ later) :
    ∃ rest, (t.after later).listeners.mailbox receiver = .held rest ∧
      t.gathered (takenFrom receiver) later ++ rest = waiting := by
  obtain rfl | ⟨rest, rfl⟩ := hlater
  · exact ⟨waiting, hheld, rfl⟩
  · have hremoved := ht.perform (.remove id)
    have hnone := ht.wellFormed.channel_not_mem_remove hm
    rw [gathered_append, after_append]
    exact (taken_after_removal hremoved hheld hnone (fun h => hkeep (List.mem_append_left _ h))).2

theorem Interval.taken {operations past during later : List (Operation τ)} (ht : t.Tracked)
    (h : t.Interval id .subscribe operations past during later)
    (hkeep : .dropReceiver (t.after past).listeners.subscribe.2.2 ∉ later ++ during) :
    ∃ waiting, (t.after operations).listeners.mailbox (t.after past).listeners.subscribe.2.2 = .held waiting ∧
      t.gathered (takenFrom (t.after past).listeners.subscribe.2.2) operations ++ waiting =
        (t.after (.subscribe :: past)).gathered emission during := by
  obtain ⟨rfl, hhanded, hkept, hremoved⟩ := h
  obtain rfl : id = ⟨(t.after past).listeners.nextId⟩ := (Option.some.inj hhanded).symm
  have hsubscribed := ht.after (.subscribe :: past)
  have hmem : (⟨(t.after past).listeners.nextId⟩, .channel (t.after past).listeners.subscribe.2.2) ∈
      (t.after (.subscribe :: past)).listeners.entries := List.mem_append_right _ (List.mem_singleton_self _)
  have hheld : (t.after (.subscribe :: past)).listeners.mailbox (t.after past).listeners.subscribe.2.2 = .held [] :=
    (t.after past).listeners.mailbox_subscribe
  have hbefore : t.gathered (takenFrom (t.after past).listeners.subscribe.2.2) (.subscribe :: past) = [] := by
    have hpast : t.gathered (takenFrom (t.after past).listeners.subscribe.2.2) past = [] :=
      taken_before ht past (Nat.le_refl _)
    rw [gathered, hpast]
    rfl
  generalize (t.after past).listeners.subscribe.2.2 = receiver at *
  obtain ⟨waiting, hwaiting, htaken⟩ := taken_while_registered hsubscribed hheld hmem hkept
    (fun h => hkeep (List.mem_append_right _ h))
  obtain ⟨rest, hrest, hlater⟩ := taken_after_interval (hsubscribed.after during) (mem_after hsubscribed hmem hkept)
    hwaiting hremoved (fun h => hkeep (List.mem_append_left _ h))
  refine ⟨rest, ?_, ?_⟩
  · rw [after_append, after_append]
    exact hrest
  · rw [gathered_append, gathered_append, hbefore, after_append, List.nil_append, List.append_assoc, hlater, htaken,
      List.nil_append]

/-- In every run each listener hears the events of its own interval and nothing else. -/
theorem listeners_hear_their_intervals (carrier : τ) (config : TransportConfig) (operations : List (Operation τ)) :
    (ofConfig carrier config).1.Hears operations := by
  have ht := tracked_ofConfig carrier config
  have hnow := ht.after operations
  exact {
    ids := (handedOut_sorted ht operations).1
    removal := fun id => by rw [Listeners.remove_iff, exists_interval_iff ht rfl]
    observer := fun h => h.heard ht
    receiver := fun h hkeep => h.taken ht hkeep
    order := fun operation => by
      rw [hnow.callsOf_eq]
      exact Listeners.calls_sorted hnow.wellFormed _
    told := fun operation event h => by
      rw [emission_eq] at h
      rw [hnow.callsOf_eq, hnow.listeners_perform]
      exact hnow.wellFormed.told h
    errors := by
      intro kind packet arrival e he
      have hanswer := receiveAnswer_receive hnow.keyed kind packet arrival
      generalize ((ofConfig carrier config).1.after operations).receive kind packet arrival = r at hanswer he ⊢
      cases hanswer with
      | inactive notices => exact ⟨rfl, rfl⟩
      | failed hfailure activation notices => exact ⟨rfl, rfl⟩
      | emitted activation notices => cases he }

end SecureRtp.Transport
