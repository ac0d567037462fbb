/-
This file models the task that reads from a live connection. It stops when the
peer closes the connection, when reading fails and when no pong has come for
too long; only pongs prolong its life. Text frames change the filter of the
client.
-/

import ServerMonitor.Connection.Frame

namespace ServerMonitor

/-- The last instant that timers can represent, in milliseconds. -/
def lastInstant : Nat := (UInt64.size / 2 - 1) * 1000 + 999

/-- What reading from a connection yields. -/
inductive Arrival
  | frame (frame : Frame)
  | failure
  /-- The peer is gone. -/
  | finish
deriving DecidableEq

structure Reader where
  /-- When it stops unless a pong comes before. -/
  deadline : Nat
  running : Bool
deriving DecidableEq

namespace Reader

/-- A reader that breaks down at once if its deadline cannot be represented. -/
def start (timeout now : Nat) : Reader := ⟨now + timeout, now + timeout ≤ lastInstant⟩

def stop (reader : Reader) : Reader := { reader with running := false }

/-- The reader after something arrived; a pong sets its deadline anew. -/
def accept (reader : Reader) (timeout now : Nat) : Arrival → Reader
  | .frame (.pong _) => start timeout now
  | .frame .close | .failure | .finish => reader.stop
  | .frame _ => reader

/-- Whether the time for the next pong is over. -/
def isLate (reader : Reader) (now : Nat) : Bool := reader.deadline ≤ now

end Reader

namespace Arrival

/-- What reading the next frame yields. -/
def ofFrame (frame : Frame) : Arrival := if frame.isReadable then .frame frame else .failure

/-- Whether the reader ends by itself after it. -/
def isLast : Arrival → Bool
  | frame .close | failure | finish => true
  | frame _ => false

/-- The text by which the client may change its filter. -/
def controlText? : Arrival → Option String
  | frame (.text content) => some content
  | _ => none

/-- The frame with which the connection itself answers. -/
def reply? : Arrival → Option Frame
  | frame (.ping content) => some (.pong content)
  | _ => none

end Arrival

end ServerMonitor
