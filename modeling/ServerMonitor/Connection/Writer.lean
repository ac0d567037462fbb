/-
This file models the task that writes to a live connection: the events queued
for its client in their order, a ping whenever one is due, and a close frame
once the queue is closed and empty. It stops after that and after the first
frame that cannot be sent.
-/

import ServerMonitor.Connection.Reader
import ServerMonitor.Payload.Basic

namespace ServerMonitor

structure Writer where
  /-- When the next ping is due. -/
  nextPing : Nat
  running : Bool
deriving DecidableEq

/-- What the writer has to send next. -/
inductive Errand
  | event (announced : Event)
  | ping
  /-- The queue is closed and everything in it was sent. -/
  | farewell

def Errand.frame : Errand → Frame
  | .event announced => .text announced.toText
  | .ping => .ping ""
  | .farewell => .close

namespace Writer

/-- A writer that breaks down at once if pings follow each other without a pause or the first one
cannot be represented. -/
def start (interval now : Nat) : Writer :=
  ⟨now + interval, interval ≠ 0 && now + interval ≤ lastInstant⟩

def stop (writer : Writer) : Writer := { writer with running := false }

def isPingDue (writer : Writer) (now : Nat) : Bool := writer.nextPing ≤ now

/-- The writer after an errand whose frame was sent or not. The next ping keeps the distance to
the time at which this one was due. -/
def settle (writer : Writer) (interval : Nat) (errand : Errand) (sent : Bool) : Writer :=
  if !sent then writer.stop
  else
    match errand with
    | .event _ => writer
    | .ping => { writer with nextPing := writer.nextPing + interval }
    | .farewell => writer.stop

end Writer

end ServerMonitor
