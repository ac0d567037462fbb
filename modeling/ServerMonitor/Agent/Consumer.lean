/-
This file models the loops that take messages off the bus. A consumer takes the
messages of its mailbox in their order until it is cancelled or its mailbox is
closed and empty, and detaches the mailbox on its way out.
-/

import ServerMonitor.Bus.Basic

namespace ServerMonitor

structure Consumer where
  mailbox : Nat
  running : Bool
deriving DecidableEq

namespace Consumer

variable {Message : Type}

/-- A consumer that was never started. -/
def absent : Consumer := ⟨0, false⟩

/-- Starts a consumer of the given topics. -/
def start (bus : Bus Message) (topics : List String) : Bus Message × Consumer :=
  let (bus, mailbox) := bus.subscribe topics
  (bus, ⟨mailbox, true⟩)

/-- Ends a consumer and detaches its mailbox. -/
def leave (consumer : Consumer) (bus : Bus Message) : Consumer × Bus Message :=
  ({ consumer with running := false },
    (bus.unsubscribe consumer.mailbox []).drop consumer.mailbox)

/-- Ends a consumer from outside; its mailbox stays registered without a receiver. -/
def abort (consumer : Consumer) (bus : Bus Message) : Consumer × Bus Message :=
  if consumer.running then
    ({ consumer with running := false }, bus.drop consumer.mailbox)
  else (consumer, bus)

/-- One step of a consumer: it takes a message or leaves, unless it has to wait. -/
def step? (consumer : Consumer) (cancelled : Bool) (bus : Bus Message) :
    Option ((Consumer × Bus Message) × Option Message) :=
  if !consumer.running then none
  else if cancelled then some (consumer.leave bus, none)
  else
    match bus.receive consumer.mailbox with
    | (bus, .message message) => some ((consumer, bus), some message)
    | (bus, .closed) => some (consumer.leave bus, none)
    | (_, .empty) => none

/-- More steps than a consumer can take before it waits. -/
def stepBound (consumer : Consumer) (bus : Bus Message) : Nat :=
  (bus.queued consumer.mailbox).length + 1

end Consumer

end ServerMonitor
