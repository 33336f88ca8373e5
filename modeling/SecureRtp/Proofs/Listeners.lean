import SecureRtp.Listeners

namespace SecureRtp

def Mailbox.put (event : Event) : Mailbox → Mailbox
  | .held waiting => .held (waiting ++ [event])
  | .dropped => .dropped

def eventsTo (id : ListenerId) (calls : List (ListenerId × Event)) : List Event :=
  (calls.filter fun call => call.1 = id).map Prod.snd

theorem filter_eq_singleton {α : Type} {p : α → Bool} {xs : List α} (h : xs.Pairwise fun a b => ¬(p a ∧ p b)) {a : α}
    (hm : a ∈ xs) (hp : p a) : xs.filter p = [a] := by
  induction xs with
  | nil => cases hm
  | cons x xs ih =>
    obtain ⟨hx, hxs⟩ := List.pairwise_cons.mp h
    cases hm with
    | head =>
      have hrest : xs.filter p = [] := List.filter_eq_nil_iff.mpr fun b hb hpb => hx b hb ⟨hp, hpb⟩
      rw [List.filter_cons_of_pos hp, hrest]
    | tail _ hm => rw [List.filter_cons_of_neg (fun hpx => hx a hm ⟨hpx, hp⟩), ih hxs hm]

namespace Listeners

inductive Action where
  | idle
  | observe
  | subscribe
  | remove (id : ListenerId)
  | drain (receiver : ReceiverId)
  | dropReceiver (receiver : ReceiverId)
  | emit (event : Event)

def act (l : Listeners) : Action → Listeners
  | .idle => l
  | .observe => l.observe.1
  | .subscribe => l.subscribe.1
  | .remove id => (l.remove id).1
  | .drain receiver => (l.drain receiver).1
  | .dropReceiver receiver => l.dropReceiver receiver
  | .emit event => (l.emit event).listeners

def Action.emission : Action → List Event
  | .emit event => [event]
  | _ => []

def callsOf (l : Listeners) : Action → List (ListenerId × Event)
  | .emit event => (l.emit event).calls
  | _ => []

def handedOut? (l : Listeners) : Action → Option ListenerId
  | .observe => some l.observe.2
  | .subscribe => some l.subscribe.2.1
  | _ => none

def takenFrom (l : Listeners) (receiver : ReceiverId) : Action → List Event
  | .drain asked => if asked = receiver then (l.drain asked).2 else []
  | _ => []

section

variable (l : Listeners)

theorem lt_of_held {receiver : ReceiverId} {waiting : List Event} (h : l.mailbox receiver = .held waiting) :
    receiver.value < l.mailboxes.length := by
  apply Nat.lt_of_not_le
  intro hout
  rw [mailbox, List.getD_eq_getElem?_getD, List.getElem?_eq_none hout] at h
  cases h

theorem mailbox_setMailbox {receiver : ReceiverId} (h : receiver.value < l.mailboxes.length) (mailbox : Mailbox)
    (asked : ReceiverId) :
    (l.setMailbox receiver mailbox).mailbox asked = if receiver = asked then mailbox else l.mailbox asked := by
  obtain ⟨n⟩ := receiver
  obtain ⟨m⟩ := asked
  simp only [Listeners.mailbox, setMailbox, List.getD_eq_getElem?_getD, List.getElem?_set, ReceiverId.mk.injEq, h]
  split <;> rfl

variable (event : Event)

structure SameEntries (l m : Listeners) : Prop where
  entries : m.entries = l.entries
  nextId : m.nextId = l.nextId
  mailboxes : m.mailboxes.length = l.mailboxes.length

theorem SameEntries.refl : l.SameEntries l := ⟨rfl, rfl, rfl⟩

theorem SameEntries.trans {l m n : Listeners} (h : l.SameEntries m) (h' : m.SameEntries n) : l.SameEntries n :=
  ⟨h'.entries.trans h.entries, h'.nextId.trans h.nextId, h'.mailboxes.trans h.mailboxes⟩

theorem sameEntries_setMailbox (receiver : ReceiverId) (mailbox : Mailbox) :
    l.SameEntries (l.setMailbox receiver mailbox) := ⟨rfl, rfl, List.length_set⟩

theorem sameEntries_deliver (id : ListenerId) (sink : Sink) : l.SameEntries (l.deliver event id sink).listeners := by
  cases sink with
  | observer => exact .refl l
  | channel receiver =>
    rw [deliver]
    split
    · exact l.sameEntries_setMailbox _ _
    · exact .refl l

theorem sameEntries_deliverAll (entries : List (ListenerId × Sink)) :
    l.SameEntries (deliverAll event entries l).listeners := by
  induction entries generalizing l with
  | nil => exact .refl l
  | cons entry rest ih =>
    have hfirst := l.sameEntries_deliver event entry.1 entry.2
    exact hfirst.trans (ih (l.deliver event entry.1 entry.2).listeners)

theorem calls_deliverAll (entries : List (ListenerId × Sink)) :
    (deliverAll event entries l).calls =
      (entries.filter fun entry => entry.2 = .observer).map fun entry => (entry.1, event) := by
  induction entries generalizing l with
  | nil => rfl
  | cons entry rest ih =>
    obtain ⟨id, sink⟩ := entry
    rw [deliverAll]
    dsimp only
    rw [ih]
    cases sink with
    | observer => rfl
    | channel receiver =>
      have hnone : (l.deliver event id (.channel receiver)).calls = [] := by
        rw [deliver]
        split <;> rfl
      rw [hnone]
      rfl

theorem mailbox_deliver (id : ListenerId) (sink : Sink) (receiver : ReceiverId) :
    (l.deliver event id sink).listeners.mailbox receiver =
      if sink = .channel receiver then (l.mailbox receiver).put event else l.mailbox receiver := by
  cases sink with
  | observer => rfl
  | channel asked =>
    rw [deliver]
    simp only [Sink.channel.injEq]
    cases hm : l.mailbox asked with
    | held waiting =>
      dsimp only
      rw [mailbox_setMailbox l (l.lt_of_held hm)]
      split
      · rename_i h
        rw [← h, hm]
        rfl
      · rfl
    | dropped =>
      dsimp only
      split
      · rename_i h
        rw [← h, hm]
        rfl
      · rfl

theorem mailbox_deliverAll (entries : List (ListenerId × Sink)) (receiver : ReceiverId) :
    (deliverAll event entries l).listeners.mailbox receiver =
      (entries.filter fun entry => entry.2 = .channel receiver).foldl (fun mailbox _ => mailbox.put event)
        (l.mailbox receiver) := by
  induction entries generalizing l with
  | nil => rfl
  | cons entry rest ih =>
    rw [deliverAll]
    dsimp only
    rw [ih, mailbox_deliver, List.filter_cons]
    by_cases h : entry.2 = .channel receiver
    · rw [if_pos h, if_pos (decide_eq_true h), List.foldl_cons]
    · rw [if_neg h, if_neg (by simpa using h)]

theorem deliverAll_append (first rest : List (ListenerId × Sink)) (l : Listeners) :
    deliverAll event (first ++ rest) l =
      let before := deliverAll event first l
      let after := deliverAll event rest before.listeners
      ⟨after.listeners, before.calls ++ after.calls, before.notices ++ after.notices⟩ := by
  induction first generalizing l with
  | nil => rfl
  | cons entry first ih =>
    rw [List.cons_append, deliverAll, ih, deliverAll]
    dsimp only
    rw [List.append_assoc, List.append_assoc]

end

/-- These entries have got the event once each, an observer by a call and a receiver that is held by what waits for it.
Nobody else has. -/
structure Reached (entries : List (ListenerId × Sink)) (l : Listeners) (event : Event)
    (calls : List (ListenerId × Event)) (m : Listeners) : Prop where
  called {id : ListenerId} (h : (id, .observer) ∈ entries) : eventsTo id calls = [event]
  uncalled {id : ListenerId} (h : (id, .observer) ∉ entries) : eventsTo id calls = []
  sorted : calls.Pairwise fun a b => a.1.value < b.1.value
  mailbox {id : ListenerId} {receiver : ReceiverId} (h : (id, .channel receiver) ∈ entries) :
    m.mailbox receiver = (l.mailbox receiver).put event
  others {receiver : ReceiverId} (h : ∀ id, (id, .channel receiver) ∉ entries) :
    m.mailbox receiver = l.mailbox receiver
  registered : l.SameEntries m

/-- All that are registered have got the event, one after the other in the order of their ids. -/
structure Told (l : Listeners) (event : Event) (calls : List (ListenerId × Event)) (m : Listeners) : Prop where
  all : Reached l.entries l event calls m
  inTurn : l.entries.Pairwise fun a b => a.1.value < b.1.value
  stage {first rest : List (ListenerId × Sink)} (h : l.entries = first ++ rest) :
    let before := deliverAll event first l
    let after := deliverAll event rest before.listeners
    Reached first l event before.calls before.listeners ∧ calls = before.calls ++ after.calls ∧ m = after.listeners

/-- The entries are in the order in which their ids were handed out, and no two of them share a mailbox. -/
structure WellFormed (l : Listeners) : Prop where
  sorted : l.entries.Pairwise fun a b => a.1.value < b.1.value
  handed : ∀ entry ∈ l.entries, entry.1.value < l.nextId
  known : ∀ entry ∈ l.entries, ∀ receiver, entry.2 = .channel receiver → receiver.value < l.mailboxes.length
  apart : ∀ receiver, l.entries.Pairwise fun a b => ¬(a.2 = .channel receiver ∧ b.2 = .channel receiver)

variable {l m : Listeners} {id : ListenerId} {sink : Sink} {receiver : ReceiverId} {waiting : List Event}

theorem WellFormed.of_sameEntries (hw : l.WellFormed) (h : l.SameEntries m) : m.WellFormed := by
  obtain ⟨he, hn, hm⟩ := h
  constructor
  · rw [he]
    exact hw.sorted
  · rw [he, hn]
    exact hw.handed
  · rw [he, hm]
    exact hw.known
  · rw [he]
    exact hw.apart

theorem WellFormed.register (hw : l.WellFormed)
    (hknown : ∀ receiver, sink = .channel receiver → receiver.value < l.mailboxes.length)
    (hnew : ∀ entry ∈ l.entries, ∀ receiver, entry.2 = .channel receiver → sink ≠ .channel receiver) :
    (l.register sink).1.WellFormed := by
  constructor
  · apply List.pairwise_append.mpr
    refine ⟨hw.sorted, List.pairwise_singleton _ _, ?_⟩
    intro entry he last hl
    rw [List.mem_singleton.mp hl]
    exact hw.handed entry he
  · intro entry he
    obtain he | he := List.mem_append.mp he
    · exact Nat.lt_succ_of_lt (hw.handed entry he)
    · rw [List.mem_singleton.mp he]
      exact Nat.lt_succ_self _
  · intro entry he receiver hsink
    obtain he | he := List.mem_append.mp he
    · exact hw.known entry he receiver hsink
    · rw [List.mem_singleton.mp he] at hsink
      exact hknown receiver hsink
  · intro receiver
    apply List.pairwise_append.mpr
    refine ⟨hw.apart receiver, List.pairwise_singleton _ _, ?_⟩
    rintro entry he last hl ⟨hfirst, hlast⟩
    rw [List.mem_singleton.mp hl] at hlast
    exact hnew entry he receiver hfirst hlast

theorem WellFormed.subscribe (hw : l.WellFormed) : l.subscribe.1.WellFormed := by
  have hgrown : WellFormed { l with mailboxes := l.mailboxes ++ [.held []] } := by
    refine ⟨hw.sorted, hw.handed, ?_, hw.apart⟩
    intro entry he receiver hsink
    rw [List.length_append]
    exact Nat.lt_succ_of_lt (hw.known entry he receiver hsink)
  apply hgrown.register
  · intro receiver hsink
    cases hsink
    rw [List.length_append]
    exact Nat.lt_succ_self _
  · intro entry he receiver hsink hlast
    cases hlast
    exact Nat.lt_irrefl _ (hw.known entry he _ hsink)

theorem WellFormed.remove (hw : l.WellFormed) (id : ListenerId) : (l.remove id).1.WellFormed where
  sorted := hw.sorted.filter _
  handed entry he := hw.handed entry (List.mem_filter.mp he).1
  known entry he := hw.known entry (List.mem_filter.mp he).1
  apart receiver := (hw.apart receiver).filter _

theorem sameEntries_drain (l : Listeners) (receiver : ReceiverId) : l.SameEntries (l.drain receiver).1 := by
  rw [drain]
  split
  · exact l.sameEntries_setMailbox _ _
  · exact .refl l

theorem WellFormed.act (hw : l.WellFormed) (action : Action) : (l.act action).WellFormed := by
  cases action with
  | idle => exact hw
  | observe => exact hw.register nofun (fun _ _ _ _ => nofun)
  | subscribe => exact hw.subscribe
  | remove id => exact hw.remove id
  | drain receiver => exact hw.of_sameEntries (l.sameEntries_drain receiver)
  | dropReceiver receiver => exact hw.of_sameEntries (l.sameEntries_setMailbox _ _)
  | emit event => exact hw.of_sameEntries (l.sameEntries_deliverAll event l.entries)

theorem wellFormed_empty : WellFormed {} := ⟨.nil, nofun, nofun, fun _ => .nil⟩

def after (l : Listeners) : List Action → Listeners
  | [] => l
  | action :: past => (l.after past).act action

theorem WellFormed.after (hw : l.WellFormed) (actions : List Action) : (l.after actions).WellFormed := by
  induction actions with
  | nil => exact hw
  | cons action past ih => exact ih.act action

theorem entries_act (l : Listeners) (action : Action) :
    (l.act action).entries =
      match action with
      | .observe => l.entries ++ [(⟨l.nextId⟩, .observer)]
      | .subscribe => l.entries ++ [(⟨l.nextId⟩, .channel ⟨l.mailboxes.length⟩)]
      | .remove id => l.entries.filter fun entry => entry.1 ≠ id
      | _ => l.entries := by
  cases action with
  | drain receiver => exact (l.sameEntries_drain receiver).entries
  | emit event => exact (l.sameEntries_deliverAll event l.entries).entries
  | _ => rfl

theorem nextId_act (l : Listeners) (action : Action) :
    (l.act action).nextId = l.nextId + (l.handedOut? action).toList.length := by
  cases action with
  | drain receiver => exact (l.sameEntries_drain receiver).nextId
  | emit event => exact (l.sameEntries_deliverAll event l.entries).nextId
  | _ => rfl

theorem eq_of_handedOut? {action : Action} (h : l.handedOut? action = some id) : id = ⟨l.nextId⟩ := by
  cases action with
  | observe => exact (Option.some.inj h).symm
  | subscribe => exact (Option.some.inj h).symm
  | _ => cases h

theorem length_mailboxes_act (l : Listeners) (action : Action) :
    l.mailboxes.length ≤ (l.act action).mailboxes.length := by
  cases action with
  | drain receiver => exact Nat.le_of_eq (l.sameEntries_drain receiver).mailboxes.symm
  | emit event => exact Nat.le_of_eq (l.sameEntries_deliverAll event l.entries).mailboxes.symm
  | dropReceiver receiver => exact Nat.le_of_eq (l.sameEntries_setMailbox _ _).mailboxes.symm
  | subscribe =>
    change _ ≤ (l.mailboxes ++ [_]).length
    rw [List.length_append]
    exact Nat.le_add_right _ _
  | _ => exact Nat.le_refl _

theorem mem_act (hm : (id, sink) ∈ l.entries) {action : Action} (ha : action ≠ .remove id) :
    (id, sink) ∈ (l.act action).entries := by
  rw [entries_act]
  cases action with
  | observe => exact List.mem_append_left _ hm
  | subscribe => exact List.mem_append_left _ hm
  | remove other =>
    have hne : id ≠ other := by
      rintro rfl
      exact ha rfl
    exact List.mem_filter.mpr ⟨hm, decide_eq_true hne⟩
  | _ => exact hm

theorem exists_mem_of_handedOut? {action : Action} (h : l.handedOut? action = some id) :
    ∃ sink, (id, sink) ∈ (l.act action).entries := by
  obtain rfl := eq_of_handedOut? h
  rw [entries_act]
  cases action with
  | observe => exact ⟨_, List.mem_append_right _ (List.mem_singleton_self _)⟩
  | subscribe => exact ⟨_, List.mem_append_right _ (List.mem_singleton_self _)⟩
  | _ => cases h

theorem of_mem_act {action : Action} (h : (id, sink) ∈ (l.act action).entries) :
    ((id, sink) ∈ l.entries ∧ action ≠ .remove id) ∨ l.handedOut? action = some id := by
  rw [entries_act] at h
  cases action with
  | observe =>
    obtain h | h := List.mem_append.mp h
    · exact .inl ⟨h, nofun⟩
    · cases List.mem_singleton.mp h
      exact .inr rfl
  | subscribe =>
    obtain h | h := List.mem_append.mp h
    · exact .inl ⟨h, nofun⟩
    · cases List.mem_singleton.mp h
      exact .inr rfl
  | remove other =>
    obtain ⟨hin, hne⟩ := List.mem_filter.mp h
    refine .inl ⟨hin, ?_⟩
    rintro heq
    cases heq
    exact of_decide_eq_true hne rfl
  | _ => exact .inl ⟨h, nofun⟩

theorem not_mem_act (hlt : id.value < l.nextId) (hm : ∀ sink, (id, sink) ∉ l.entries) (action : Action) (sink : Sink) :
    (id, sink) ∉ (l.act action).entries := by
  rw [entries_act]
  have hnew (other : Sink) : (id, sink) ∉ l.entries ++ [(⟨l.nextId⟩, other)] := by
    intro h
    obtain h | h := List.mem_append.mp h
    · exact hm sink h
    · cases List.mem_singleton.mp h
      exact Nat.lt_irrefl _ hlt
  cases action with
  | observe => exact hnew _
  | subscribe => exact hnew _
  | remove other => exact fun h => hm sink (List.mem_filter.mp h).1
  | _ => exact hm sink

theorem channel_not_mem_act (hlt : receiver.value < l.mailboxes.length) (hm : ∀ id, (id, .channel receiver) ∉ l.entries)
    (action : Action) (id : ListenerId) : (id, .channel receiver) ∉ (l.act action).entries := by
  rw [entries_act]
  have hnew (other : Sink) (hne : other ≠ .channel receiver) :
      (id, .channel receiver) ∉ l.entries ++ [(⟨l.nextId⟩, other)] := by
    intro h
    obtain h | h := List.mem_append.mp h
    · exact hm id h
    · cases List.mem_singleton.mp h
      exact hne rfl
  cases action with
  | observe => exact hnew _ nofun
  | subscribe =>
    apply hnew
    rintro h
    cases h
    exact Nat.lt_irrefl _ hlt
  | remove other => exact fun h => hm id (List.mem_filter.mp h).1
  | _ => exact hm id

theorem not_mem_remove (l : Listeners) (id : ListenerId) (sink : Sink) : (id, sink) ∉ (l.remove id).1.entries :=
  fun h => of_decide_eq_true (List.mem_filter.mp h).2 rfl

theorem filter_channel {entries : List (ListenerId × Sink)}
    (ha : entries.Pairwise fun a b => ¬(a.2 = .channel receiver ∧ b.2 = .channel receiver))
    (hm : (id, .channel receiver) ∈ entries) :
    (entries.filter fun entry => entry.2 = .channel receiver) = [(id, .channel receiver)] := by
  apply filter_eq_singleton _ hm (by simp)
  apply ha.imp
  rintro a b hne ⟨ha, hb⟩
  exact hne ⟨of_decide_eq_true ha, of_decide_eq_true hb⟩

theorem filter_channel_of_not_mem {entries : List (ListenerId × Sink)} (hm : ∀ id, (id, .channel receiver) ∉ entries) :
    (entries.filter fun entry => entry.2 = .channel receiver) = [] := by
  apply List.filter_eq_nil_iff.mpr
  rintro ⟨id, sink⟩ hin h
  cases of_decide_eq_true h
  exact hm id hin

theorem WellFormed.channel_not_mem_remove (hw : l.WellFormed) (hm : (id, .channel receiver) ∈ l.entries)
    (other : ListenerId) : (other, .channel receiver) ∉ (l.remove id).1.entries := by
  intro h
  obtain ⟨hin, hne⟩ := List.mem_filter.mp h
  have honly : (other, Sink.channel receiver) ∈ [(id, Sink.channel receiver)] := by
    rw [← filter_channel (hw.apart receiver) hm]
    exact List.mem_filter.mpr ⟨hin, decide_eq_true rfl⟩
  cases List.mem_singleton.mp honly
  exact of_decide_eq_true hne rfl

theorem takenFrom_of_le (hle : l.mailboxes.length ≤ receiver.value) (action : Action) :
    l.takenFrom receiver action = [] := by
  cases action with
  | drain asked =>
    rw [takenFrom]
    split
    · rename_i h
      subst h
      rw [drain, mailbox, List.getD_eq_getElem?_getD, List.getElem?_eq_none hle]
      rfl
    · rfl
  | _ => rfl

theorem mailbox_subscribe (l : Listeners) : l.subscribe.1.mailbox l.subscribe.2.2 = .held [] := by
  change (l.mailboxes ++ [Mailbox.held []]).getD l.mailboxes.length .dropped = _
  rw [List.getD_eq_getElem?_getD, List.getElem?_concat_length]
  rfl

theorem mailbox_subscribe_of_held (hheld : l.mailbox receiver = .held waiting) :
    l.subscribe.1.mailbox receiver = .held waiting := by
  have hlt := l.lt_of_held hheld
  rw [mailbox, List.getD_eq_getElem?_getD] at hheld ⊢
  change (l.mailboxes ++ [.held []])[receiver.value]?.getD _ = _
  rw [List.getElem?_append_left hlt]
  exact hheld

theorem mailbox_drain_of_ne {asked : ReceiverId} (h : asked ≠ receiver) :
    (l.drain asked).1.mailbox receiver = l.mailbox receiver := by
  rw [drain]
  split
  · rename_i waiting hheld
    exact (mailbox_setMailbox l (l.lt_of_held hheld) _ _).trans (if_neg h)
  · rfl

theorem mailbox_dropReceiver_of_ne {asked : ReceiverId} (h : asked ≠ receiver) :
    (l.dropReceiver asked).mailbox receiver = l.mailbox receiver := by
  by_cases hlt : asked.value < l.mailboxes.length
  · rw [dropReceiver, mailbox_setMailbox l hlt, if_neg h]
  · rw [dropReceiver, setMailbox, List.set_eq_of_length_le (Nat.le_of_not_lt hlt)]

theorem remove_iff (l : Listeners) (id : ListenerId) :
    (l.remove id).2 = true ↔ ∃ sink, (id, sink) ∈ l.entries := by
  rw [remove]
  dsimp only
  rw [decide_eq_true_iff, Ne, List.length_filter_eq_length_iff]
  constructor
  · intro h
    simp only [decide_eq_true_eq, Classical.not_forall, Decidable.not_not] at h
    obtain ⟨⟨_, sink⟩, hm, rfl⟩ := h
    exact ⟨sink, hm⟩
  · rintro ⟨sink, hm⟩ h
    exact of_decide_eq_true (h _ hm) rfl

section

variable (l : Listeners) (event : Event) {entries : List (ListenerId × Sink)}

theorem eventsTo_deliverAll (id : ListenerId) (entries : List (ListenerId × Sink)) :
    eventsTo id (deliverAll event entries l).calls =
      (entries.filter fun entry => entry.1 = id ∧ entry.2 = .observer).map fun _ => event := by
  rw [calls_deliverAll, eventsTo, List.filter_map, List.filter_filter, List.map_map]
  simp only [Function.comp_def, Bool.decide_and]

theorem eventsTo_deliverAll_of_mem (hs : entries.Pairwise fun a b => a.1.value < b.1.value)
    (hm : (id, .observer) ∈ entries) : eventsTo id (deliverAll event entries l).calls = [event] := by
  have honly : (entries.filter fun entry => entry.1 = id ∧ entry.2 = .observer) = [(id, .observer)] := by
    apply filter_eq_singleton _ hm (by simp)
    apply hs.imp
    rintro a b hlt ⟨ha, hb⟩
    rw [(of_decide_eq_true ha).1, (of_decide_eq_true hb).1] at hlt
    exact Nat.lt_irrefl _ hlt
  rw [eventsTo_deliverAll, honly]
  rfl

theorem eventsTo_deliverAll_of_not_mem (hm : (id, .observer) ∉ entries) :
    eventsTo id (deliverAll event entries l).calls = [] := by
  have hnone : (entries.filter fun entry => entry.1 = id ∧ entry.2 = .observer) = [] := by
    apply List.filter_eq_nil_iff.mpr
    rintro ⟨_, _⟩ hin h
    obtain ⟨rfl, rfl⟩ := of_decide_eq_true h
    exact hm hin
  rw [eventsTo_deliverAll, hnone]
  rfl

theorem calls_deliverAll_sorted (hs : entries.Pairwise fun a b => a.1.value < b.1.value) :
    (deliverAll event entries l).calls.Pairwise fun a b => a.1.value < b.1.value := by
  rw [calls_deliverAll]
  exact List.pairwise_map.mpr (hs.filter _)

end

theorem eventsTo_callsOf_of_mem (hw : l.WellFormed) (hm : (id, .observer) ∈ l.entries) (action : Action) :
    eventsTo id (l.callsOf action) = action.emission := by
  cases action with
  | emit event => exact eventsTo_deliverAll_of_mem l event hw.sorted hm
  | _ => rfl

theorem eventsTo_callsOf_of_not_mem (hm : ∀ sink, (id, sink) ∉ l.entries) (action : Action) :
    eventsTo id (l.callsOf action) = [] := by
  cases action with
  | emit event => exact eventsTo_deliverAll_of_not_mem l event (hm .observer)
  | _ => rfl

theorem calls_sorted (hw : l.WellFormed) (action : Action) :
    (l.callsOf action).Pairwise fun a b => a.1.value < b.1.value := by
  cases action with
  | emit event => exact calls_deliverAll_sorted l event hw.sorted
  | _ => exact .nil

theorem foldl_put (event : Event) (entries : List (ListenerId × Sink)) (waiting : List Event) :
    entries.foldl (fun mailbox _ => Mailbox.put event mailbox) (.held waiting) =
      .held (waiting ++ entries.flatMap fun _ => [event]) := by
  induction entries generalizing waiting with
  | nil => rw [List.flatMap_nil, List.append_nil]; rfl
  | cons entry rest ih =>
    rw [List.foldl_cons, Mailbox.put, ih, List.flatMap_cons, List.append_assoc]

theorem held_act (hheld : l.mailbox receiver = .held waiting) {action : Action} (ha : action ≠ .dropReceiver receiver) :
    ∃ rest, (l.act action).mailbox receiver = .held rest ∧
      l.takenFrom receiver action ++ rest =
        waiting ++ (l.entries.filter fun entry => entry.2 = .channel receiver).flatMap fun _ => action.emission := by
  have hquiet : waiting ++
      (l.entries.filter fun entry => entry.2 = .channel receiver).flatMap (fun _ => []) = waiting := by
    rw [List.flatMap_eq_nil_iff.mpr fun _ _ => rfl, List.append_nil]
  cases action with
  | idle => exact ⟨waiting, hheld, hquiet.symm⟩
  | observe => exact ⟨waiting, hheld, hquiet.symm⟩
  | remove id => exact ⟨waiting, hheld, hquiet.symm⟩
  | subscribe => exact ⟨waiting, mailbox_subscribe_of_held hheld, hquiet.symm⟩
  | drain asked =>
    by_cases h : asked = receiver
    · subst h
      refine ⟨[], ?_, ?_⟩
      · rw [act, drain, hheld]
        dsimp only
        rw [mailbox_setMailbox l (l.lt_of_held hheld), if_pos rfl]
      · rw [takenFrom, if_pos rfl, drain, hheld, List.append_nil]
        exact hquiet.symm
    · refine ⟨waiting, (mailbox_drain_of_ne h).trans hheld, ?_⟩
      rw [takenFrom, if_neg h]
      exact hquiet.symm
  | dropReceiver asked =>
    have h : asked ≠ receiver := by
      rintro rfl
      exact ha rfl
    exact ⟨waiting, (mailbox_dropReceiver_of_ne h).trans hheld, hquiet.symm⟩
  | emit event =>
    refine ⟨_, ?_, rfl⟩
    change (deliverAll event l.entries l).listeners.mailbox receiver = _
    rw [mailbox_deliverAll, hheld, foldl_put]
    rfl

theorem WellFormed.held_act_of_mem (hw : l.WellFormed) (hm : (id, .channel receiver) ∈ l.entries)
    (hheld : l.mailbox receiver = .held waiting) {action : Action} (ha : action ≠ .dropReceiver receiver) :
    ∃ rest, (l.act action).mailbox receiver = .held rest ∧
      l.takenFrom receiver action ++ rest = waiting ++ action.emission := by
  obtain ⟨rest, hrest, htaken⟩ := held_act hheld ha
  rw [filter_channel (hw.apart receiver) hm, List.flatMap_singleton] at htaken
  exact ⟨rest, hrest, htaken⟩

theorem held_act_of_not_mem (hm : ∀ id, (id, .channel receiver) ∉ l.entries)
    (hheld : l.mailbox receiver = .held waiting) {action : Action} (ha : action ≠ .dropReceiver receiver) :
    ∃ rest, (l.act action).mailbox receiver = .held rest ∧ l.takenFrom receiver action ++ rest = waiting := by
  obtain ⟨rest, hrest, htaken⟩ := held_act hheld ha
  rw [filter_channel_of_not_mem hm, List.flatMap_nil, List.append_nil] at htaken
  exact ⟨rest, hrest, htaken⟩

section

variable {entries first rest : List (ListenerId × Sink)} (event : Event)

theorem WellFormed.reached (hw : l.WellFormed) (h : l.entries = first ++ rest) :
    Reached first l event (deliverAll event first l).calls (deliverAll event first l).listeners := by
  have hsorted : first.Pairwise fun a b => a.1.value < b.1.value :=
    (List.pairwise_append.mp (h ▸ hw.sorted)).1
  have hapart (receiver : ReceiverId) :
      first.Pairwise fun a b => ¬(a.2 = .channel receiver ∧ b.2 = .channel receiver) :=
    (List.pairwise_append.mp (h ▸ hw.apart receiver)).1
  constructor
  · exact eventsTo_deliverAll_of_mem l event hsorted
  · exact eventsTo_deliverAll_of_not_mem l event
  · exact calls_deliverAll_sorted l event hsorted
  · intro id receiver hm
    rw [mailbox_deliverAll, filter_channel (hapart receiver) hm]
    rfl
  · intro receiver hm
    rw [mailbox_deliverAll, filter_channel_of_not_mem hm]
    rfl
  · exact l.sameEntries_deliverAll event first

theorem WellFormed.told_emit (hw : l.WellFormed) : l.Told event (l.emit event).calls (l.emit event).listeners where
  all := hw.reached event (List.append_nil _).symm
  inTurn := hw.sorted
  stage {first rest} h := by
    refine ⟨hw.reached event h, ?_, ?_⟩ <;> rw [emit, h, deliverAll_append]

variable {event}

theorem WellFormed.told (hw : l.WellFormed) {action : Action} (h : event ∈ action.emission) :
    l.Told event (l.callsOf action) (l.act action) := by
  cases action with
  | emit other =>
    obtain rfl := List.mem_singleton.mp h
    exact hw.told_emit event
  | _ => cases h

end

end Listeners

end SecureRtp
