/-
This file models a bus that routes messages to mailboxes by topic. A mailbox is
a bounded queue registered under any number of topics; delivery never waits, so
a full mailbox loses the newest message. The registry holds the only senders: a
mailbox under no topic is closed, and one whose receiver is gone is pruned by
the first publication that meets it.
-/

import ServerMonitor.Text.Quoted

namespace ServerMonitor

open Text

/-- The most messages that a queue can be made for. -/
def longestQueue : Nat := (UInt64.size - 1) / 8

/-- The queue of a mailbox whose receiver is alive, oldest message first. -/
structure Mailbox (Message : Type) where
  id : Nat
  queue : List Message

structure Bus (Message : Type) where
  /-- How many messages a mailbox holds. -/
  capacity : Nat
  /-- The topics with the mailboxes registered under them, oldest registration first. -/
  registry : List (String × List Nat)
  /-- The mailboxes whose receiver is alive. -/
  mailboxes : List (Mailbox Message)
  nextId : Nat

/-- What became of a message offered to one mailbox. -/
inductive Acceptance
  | queued
  | full
  /-- The receiver of the mailbox is gone. -/
  | gone
deriving DecidableEq

/-- What a receiver finds. -/
inductive Receipt (Message : Type)
  | message (value : Message)
  /-- Nothing is queued now. -/
  | empty
  /-- Nothing is queued and nothing will be. -/
  | closed

namespace Bus

variable {Message : Type}

/-- A bus whose mailboxes hold as many messages as given, at least one. -/
def withCapacity (capacity : Nat) : Bus Message := ⟨max capacity 1, [], [], 1⟩

/-! ### What the bus shows -/

/-- The mailboxes registered under a topic. -/
def registered (bus : Bus Message) (topic : String) : List Nat :=
  (bus.registry.lookup topic).getD []

def mailbox? (bus : Bus Message) (id : Nat) : Option (Mailbox Message) :=
  bus.mailboxes.find? fun mailbox => mailbox.id = id

/-- Whether a mailbox is registered under no topic. -/
def isClosed (bus : Bus Message) (id : Nat) : Bool :=
  bus.registry.all fun registration => !registration.2.contains id

/-- The number of topics with a registration. -/
def topicCount (bus : Bus Message) : Nat := bus.registry.length

/-- The number of mailboxes registered under a topic. -/
def subscriberCount (bus : Bus Message) (topic : String) : Nat := (bus.registered topic).length

/-- The bus as a diagnostic text. -/
def debug (bus : Bus Message) : String :=
  s!"EventBus \x7b topics: {bus.topicCount}, buffer_size: {bus.capacity} \x7d"

/-- A mailbox as a diagnostic text. -/
def debugMailbox (id : Nat) : String := s!"Mailbox \x7b id: {id} \x7d"

/-! ### Registration -/

/-- Adds a mailbox under a topic unless it is there already. -/
def enroll (id : Nat) (topic : String) : List (String × List Nat) → List (String × List Nat)
  | [] => [(topic, [id])]
  | registration :: rest =>
    if registration.1 = topic then
      (topic, if id ∈ registration.2 then registration.2 else registration.2 ++ [id]) :: rest
    else registration :: enroll id topic rest

/-- Creates a mailbox under the given topics and yields its identity. -/
def subscribe (bus : Bus Message) (topics : List String) : Bus Message × Nat :=
  ({ bus with
    registry := topics.foldl (fun registry topic => enroll bus.nextId topic registry) bus.registry
    mailboxes := bus.mailboxes ++ [⟨bus.nextId, []⟩]
    nextId := bus.nextId + 1 }, bus.nextId)

/-- Keeps the registrations that a test accepts, and no topic without one. -/
def retain (keep : String → Nat → Bool) (registry : List (String × List Nat)) :
    List (String × List Nat) :=
  (registry.map fun registration =>
    (registration.1, registration.2.filter (keep registration.1))).filter
      fun registration => !registration.2.isEmpty

/-- Removes a mailbox from the given topics, or from all if none is given. -/
def unsubscribe (bus : Bus Message) (id : Nat) (topics : List String) : Bus Message :=
  { bus with
    registry := retain
      (fun topic other => !(other = id && (topics.isEmpty || topics.contains topic)))
      bus.registry }

/-- Forgets the receiver of a mailbox; what is queued there is lost. -/
def drop (bus : Bus Message) (id : Nat) : Bus Message :=
  { bus with mailboxes := bus.mailboxes.filter fun mailbox => mailbox.id ≠ id }

/-! ### Publication -/

/-- Offers a message to one mailbox. -/
def offer (bus : Bus Message) (message : Message) (id : Nat) : Bus Message × Acceptance :=
  match bus.mailbox? id with
  | none => (bus, .gone)
  | some mailbox =>
    if mailbox.queue.length < bus.capacity then
      ({ bus with
        mailboxes := bus.mailboxes.map fun other =>
          if other.id = id then { other with queue := other.queue ++ [message] } else other },
        .queued)
    else (bus, .full)

/-- Offers a message to several mailboxes in turn. -/
def scan (bus : Bus Message) (message : Message) : List Nat → Bus Message × List Acceptance
  | [] => (bus, [])
  | id :: rest =>
    let (offered, acceptance) := bus.offer message id
    let (scanned, acceptances) := offered.scan message rest
    (scanned, acceptance :: acceptances)

/-- Removes the registrations of mailboxes whose receiver is gone. -/
def prune (bus : Bus Message) : Bus Message :=
  { bus with registry := retain (fun _ id => (bus.mailbox? id).isSome) bus.registry }

/-- Delivers a message to the mailboxes registered under a topic and yields how many took it. -/
def publish (bus : Bus Message) (topic : String) (message : Message) : Bus Message × Nat :=
  let (scanned, acceptances) := bus.scan message (bus.registered topic)
  (if .gone ∈ acceptances then scanned.prune else scanned, acceptances.count .queued)

/-! ### Reception -/

/-- Takes the oldest message of a mailbox. -/
def receive (bus : Bus Message) (id : Nat) : Bus Message × Receipt Message :=
  match bus.mailbox? id with
  | none => (bus, .closed)
  | some mailbox =>
    match mailbox.queue with
    | message :: rest =>
      ({ bus with
        mailboxes := bus.mailboxes.map fun other =>
          if other.id = id then { other with queue := rest } else other },
        .message message)
    | [] => (bus, if bus.isClosed id then .closed else .empty)

/-- The messages queued in a mailbox. -/
def queued (bus : Bus Message) (id : Nat) : List Message :=
  ((bus.mailbox? id).map (·.queue)).getD []

end Bus

end ServerMonitor
