/-
This file tells the bus once more, mailbox by mailbox. On a switchboard every
subscriber has a set of topics and a queue of its own and goes through a run by
itself; there is no list of topics, no registration to be made twice and nothing
to prune. The bus and the switchboard give the same answers in every run, so
what a receiver was given, followed by what still waits for it, is exactly what
its mailbox accepted, in the order of publication.
-/

import Mathlib.Data.Finset.Basic
import ServerMonitor.Proofs.Bus.Request

namespace ServerMonitor

open Bus

variable {Message : Type}

/-! ### Subscribers by themselves -/

/-- A mailbox as its owner sees it. -/
structure Subscriber (Message : Type) where
  id : Nat
  topics : Finset String
  /-- The messages accepted and not yet received, oldest first. -/
  queue : List Message
  /-- Whether its receiver is alive. -/
  listening : Bool
deriving DecidableEq

namespace Subscriber

/-- Whether a message published on a topic is put into the queue. -/
def accepts (subscriber : Subscriber Message) (capacity : Nat) (topic : String) : Bool :=
  subscriber.listening && topic ∈ subscriber.topics && subscriber.queue.length < capacity

/-- What a receiver finds at the front of the queue. -/
def front (subscriber : Subscriber Message) : Receipt Message :=
  if subscriber.listening then
    match subscriber.queue with
    | message :: _ => .message message
    | [] => if subscriber.topics = ∅ then .closed else .empty
  else .closed

/-- A subscriber after a request. -/
def after (capacity : Nat) (subscriber : Subscriber Message) :
    Request Message → Subscriber Message
  | .subscribe _ => subscriber
  | .unsubscribe id topics =>
    if id = subscriber.id then
      { subscriber with
        topics := if topics = [] then ∅ else subscriber.topics \ topics.toFinset }
    else subscriber
  | .publish topic message =>
    if subscriber.accepts capacity topic then
      { subscriber with queue := subscriber.queue ++ [message] }
    else subscriber
  | .receive id =>
    if id = subscriber.id ∧ subscriber.listening then
      { subscriber with queue := subscriber.queue.tail }
    else subscriber
  | .drop id => if id = subscriber.id then { subscriber with listening := false } else subscriber

theorem after_id (capacity : Nat) (subscriber : Subscriber Message) (request : Request Message) :
    (subscriber.after capacity request).id = subscriber.id := by
  cases request <;> simp only [after] <;> split <;> rfl

end Subscriber

/-! ### The switchboard -/

structure Switchboard (Message : Type) where
  /-- How many messages a subscriber holds. -/
  capacity : Nat
  /-- The subscribers in the order in which they came. -/
  subscribers : List (Subscriber Message)

namespace Switchboard

/-- A switchboard whose subscribers hold as many messages as given, at least one. -/
def withCapacity (capacity : Nat) : Switchboard Message := ⟨max capacity 1, []⟩

def subscriber? (board : Switchboard Message) (id : Nat) : Option (Subscriber Message) :=
  board.subscribers.find? fun subscriber => subscriber.id = id

/-- The subscriber that a request adds. -/
def joining (board : Switchboard Message) : Request Message → List (Subscriber Message)
  | .subscribe topics => [⟨board.subscribers.length + 1, topics.toFinset, [], true⟩]
  | _ => []

def reply (board : Switchboard Message) : Request Message → Reply Message
  | .subscribe _ => .subscribed (board.subscribers.length + 1)
  | .publish topic _ =>
    .delivered (board.subscribers.countP fun subscriber =>
      subscriber.accepts board.capacity topic)
  | .receive id => .received (((board.subscriber? id).map (·.front)).getD .closed)
  | .unsubscribe _ _ | .drop _ => .done

/-- Every subscriber goes its own way. -/
def perform : Machine (Switchboard Message) (Request Message) (Reply Message) :=
  fun board request =>
    ({ board with
        subscribers := (board.subscribers.map fun subscriber =>
          subscriber.after board.capacity request) ++ board.joining request },
      board.reply request)

/-- The message that a request puts into the queue of a subscriber, if any. -/
def admitted (id : Nat) (board : Switchboard Message) : Request Message → List Message
  | .publish topic message =>
    if (board.subscriber? id).any fun subscriber => subscriber.accepts board.capacity topic then
      [message]
    else []
  | _ => []

/-- The messages that a subscriber accepted in a run, in the order of their publication. -/
def accepted (board : Switchboard Message) (requests : List (Request Message)) (id : Nat) :
    List Message :=
  Machine.log perform (admitted id) board requests

theorem accepted_concat (board : Switchboard Message) (past : List (Request Message))
    (request : Request Message) (id : Nat) :
    board.accepted (past ++ [request]) id =
      board.accepted past id ++ (Machine.run perform board past).admitted id request :=
  Machine.log_concat perform (admitted id) board past request

end Switchboard

end ServerMonitor
