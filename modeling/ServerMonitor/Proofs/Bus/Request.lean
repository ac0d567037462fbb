/-
This file makes the bus a machine: what can be asked of it is a request, and
each request is answered. Requests name mailboxes by their identities; one that
names no mailbox of the bus finds nothing and changes nothing. The messages that
a receiver was given are read off the answers.
-/

import ServerMonitor.Proofs.Bus.Basic
import ServerMonitor.Proofs.Machine

namespace ServerMonitor.Bus

variable {Message : Type}

inductive Request (Message : Type)
  | subscribe (topics : List String)
  | unsubscribe (id : Nat) (topics : List String)
  | publish (topic : String) (message : Message)
  | receive (id : Nat)
  /-- Forget the receiver of a mailbox. -/
  | drop (id : Nat)

inductive Reply (Message : Type)
  /-- A mailbox with this identity was created. -/
  | subscribed (id : Nat)
  /-- So many mailboxes took the message. -/
  | delivered (count : Nat)
  | received (receipt : Receipt Message)
  | done

/-- What the bus does when it is asked. -/
def perform : Machine (Bus Message) (Request Message) (Reply Message)
  | bus, .subscribe topics => ((bus.subscribe topics).1, .subscribed (bus.subscribe topics).2)
  | bus, .unsubscribe id topics => (bus.unsubscribe id topics, .done)
  | bus, .publish topic message =>
    ((bus.publish topic message).1, .delivered (bus.publish topic message).2)
  | bus, .receive id => ((bus.receive id).1, .received (bus.receive id).2)
  | bus, .drop id => (bus.drop id, .done)

/-- The message that a request publishes, if any. -/
def Request.published : Request Message → List Message
  | .publish _ message => [message]
  | _ => []

/-- The message that an answer gives to the receiver of a mailbox, if any. -/
def Request.given (id : Nat) : Request Message → Reply Message → List Message
  | .receive other, .received (.message message) => if other = id then [message] else []
  | _, _ => []

/-- The messages that the receiver of a mailbox was given in a run, in that order. -/
def received (bus : Bus Message) (requests : List (Request Message)) (id : Nat) : List Message :=
  Machine.log perform (fun bus request => request.given id (bus.perform request).2) bus requests

/-! ### What every request keeps -/

theorem capacity_perform (bus : Bus Message) (request : Request Message) :
    (bus.perform request).1.capacity = bus.capacity := by
  cases request with
  | subscribe topics => rfl
  | unsubscribe id topics => rfl
  | publish topic message => exact (bus.publish_frame topic message).1
  | receive id => exact (bus.receive_frame id).2.1
  | drop id => rfl

/-- Only new mailboxes are given an identity. -/
theorem nextId_perform (bus : Bus Message) (request : Request Message) :
    (bus.perform request).1.nextId =
      match request with
      | .subscribe _ => bus.nextId + 1
      | _ => bus.nextId := by
  cases request with
  | subscribe topics => rfl
  | unsubscribe id topics => rfl
  | publish topic message => exact (bus.publish_frame topic message).2
  | receive id => exact (bus.receive_frame id).2.2
  | drop id => rfl

theorem Sound.perform {bus : Bus Message} (sound : bus.Sound) (request : Request Message) :
    (bus.perform request).1.Sound := by
  cases request with
  | subscribe topics => exact sound.subscribe topics
  | unsubscribe id topics => exact sound.retained _
  | publish topic message => exact sound.publish topic message
  | receive id => exact sound.receive id
  | drop id => exact sound.drop id

/-- The invariant holds after every run of a new bus. -/
theorem Sound.run (capacity : Nat) (requests : List (Request Message)) :
    (Machine.run Bus.perform (Bus.withCapacity capacity) requests).Sound :=
  Machine.run_invariant Bus.perform Sound (fun _ request sound => sound.perform request)
    (.withCapacity capacity) requests

end ServerMonitor.Bus
