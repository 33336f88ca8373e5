import SecureRtp.Notice
/-!
Listeners, in the order of their registration. An observer is called with each event, and a channel puts it
into the mailbox of a receiver, which may be dropped at any time.
-/
namespace SecureRtp

structure ListenerId where
  value : Nat
  deriving DecidableEq, Repr

def ListenerId.describe (id : ListenerId) : String := "ListenerId(" ++ Text.number id.value ++ ")"

structure ReceiverId where
  value : Nat
  deriving DecidableEq, Repr

inductive Sink where
  | observer
  | channel (receiver : ReceiverId)
  deriving DecidableEq, Repr

inductive Mailbox where
  | held (waiting : List Event)
  | dropped
  deriving DecidableEq, Repr

structure Listeners where
  nextId : Nat := 0
  entries : List (ListenerId × Sink) := []
  mailboxes : List Mailbox := []
  deriving DecidableEq, Repr

structure Delivery where
  listeners : Listeners
  calls : List (ListenerId × Event)
  notices : List Notice

namespace Listeners

def length (l : Listeners) : Nat := l.entries.length

def isEmpty (l : Listeners) : Bool := l.entries.isEmpty

def register (l : Listeners) (sink : Sink) : Listeners × ListenerId :=
  ({ l with nextId := l.nextId + 1, entries := l.entries ++ [(⟨l.nextId⟩, sink)] }, ⟨l.nextId⟩)

def observe (l : Listeners) : Listeners × ListenerId := l.register .observer

def subscribe (l : Listeners) : Listeners × ListenerId × ReceiverId :=
  let receiver : ReceiverId := ⟨l.mailboxes.length⟩
  let (l, id) := register { l with mailboxes := l.mailboxes ++ [.held []] } (.channel receiver)
  (l, id, receiver)

def remove (l : Listeners) (id : ListenerId) : Listeners × Bool :=
  let kept := l.entries.filter fun entry => entry.1 ≠ id
  ({ l with entries := kept }, kept.length ≠ l.entries.length)

def mailbox (l : Listeners) (receiver : ReceiverId) : Mailbox := l.mailboxes.getD receiver.value .dropped

def setMailbox (l : Listeners) (receiver : ReceiverId) (mailbox : Mailbox) : Listeners :=
  { l with mailboxes := l.mailboxes.set receiver.value mailbox }

def deliver (l : Listeners) (event : Event) (id : ListenerId) : Sink → Delivery
  | .observer => ⟨l, [(id, event)], []⟩
  | .channel receiver =>
    match l.mailbox receiver with
    | .held waiting => ⟨l.setMailbox receiver (.held (waiting ++ [event])), [], []⟩
    | .dropped => ⟨l, [], [.eventDiscarded event]⟩

def deliverAll (event : Event) : List (ListenerId × Sink) → Listeners → Delivery
  | [], l => ⟨l, [], []⟩
  | (id, sink) :: rest, l =>
    let first := l.deliver event id sink
    let others := deliverAll event rest first.listeners
    ⟨others.listeners, first.calls ++ others.calls, first.notices ++ others.notices⟩

def emit (l : Listeners) (event : Event) : Delivery := deliverAll event l.entries l

def drain (l : Listeners) (receiver : ReceiverId) : Listeners × List Event :=
  match l.mailbox receiver with
  | .held waiting => (l.setMailbox receiver (.held []), waiting)
  | .dropped => (l, [])

def dropReceiver (l : Listeners) (receiver : ReceiverId) : Listeners := l.setMailbox receiver .dropped

def describe (l : Listeners) : String := Text.record "EventListeners" [("count", Text.number l.length)]

end Listeners

end SecureRtp
