/-
This file models the task that runs the passes of one collector. It ticks at a
period; a tick that falls due during a pass is taken when the pass ends, and
the next one follows a period after that, so ticks missed during a long pass
are merged into one. The task ends when its token is cancelled; a pass in
progress is then given up. A tick that is due by then, or a pass that has come to
its end, may be taken first.
-/

import ServerMonitor.Collector.Pass

namespace ServerMonitor.Collector

/-- What a task is doing. Times are milliseconds of the timers' clock. -/
inductive Phase
  /-- It waits for a tick. -/
  | waiting (due : Nat)
  /-- A pass is in progress that publishes and ends at a given time. -/
  | collecting (pass : Pass) (ends : Nat) (due : Nat)
  /-- A pass is in progress that never ends. -/
  | hanging
  /-- It ended by itself. -/
  | finished
  | panicked
  /-- It was aborted. -/
  | dropped

structure Task where
  id : Nat
  /-- Which registration the task runs. -/
  registration : Nat
  /-- Milliseconds between ticks. -/
  period : Nat
  cancelled : Bool
  aborted : Bool
  phase : Phase

namespace Phase

/-- Whether the task takes no further step. -/
def isOver : Phase → Bool
  | finished | panicked | dropped => true
  | _ => false

/-- Whether a pass is in progress. -/
def isActive : Phase → Bool
  | collecting _ _ _ | hanging => true
  | _ => false

end Phase

namespace Task

/-- A task whose first tick is due at once. -/
def start (id registration period now : Nat) : Task :=
  ⟨id, registration, period, false, false, .waiting now⟩

def cancel (task : Task) : Task := { task with cancelled := true }

/-- Whether a task still runs and was not cancelled. -/
def isLive (task : Task) : Bool := !task.phase.isOver && !task.cancelled && !task.aborted

/-- What happens when a task takes a step. -/
inductive Event
  /-- Nothing that others see. -/
  | quiet
  | began
  /-- A pass published its payload and succeeded or failed. -/
  | ended (pass : Pass)
  /-- A pass published its payload and panicked or hangs. -/
  | stuck (pass : Pass)

/-- The end of a pass that has come to it. -/
def endPass (task : Task) (pass : Pass) (due : Nat) : Task × Event :=
  match pass.ending with
  | .success | .failure => ({ task with phase := .waiting due }, .ended pass)
  | .hang => ({ task with phase := .hanging }, .stuck pass)
  | .panic => ({ task with phase := .panicked }, .stuck pass)

/-- One step of a task at a time, if it can take one. `shutdown` tells whether the token above all
tasks is cancelled, `next` is the pass that a tick starts. A task that was told to stop does so. -/
def step? (task : Task) (now : Nat) (shutdown : Bool) (next : Pass) : Option (Task × Event) :=
  if task.phase.isOver then none
  else if task.aborted then some ({ task with phase := .dropped }, .quiet)
  else if task.cancelled || shutdown then some ({ task with phase := .finished }, .quiet)
  else
    match task.phase with
    | .waiting due =>
      if due ≤ now then
        let phase := .collecting next (now + next.delay) (now + task.period)
        some ({ task with phase }, .began)
      else none
    | .collecting pass ends due => if ends ≤ now then some (task.endPass pass due) else none
    | _ => none

/-- One step of a task as if it had not been told to stop. A task that was told to stop and has
something else to do at the same time may do either first, so it takes this step or the other. -/
def stepHeedless? (task : Task) (now : Nat) (next : Pass) : Option (Task × Event) := do
  let (moved, event) ← { task with cancelled := false, aborted := false }.step? now false next
  some ({ moved with cancelled := task.cancelled, aborted := task.aborted }, event)

/-- The time at which a task that cannot take a step now can take one. -/
def wakesAt? (task : Task) : Option Nat :=
  match task.phase with
  | .waiting due => some due
  | .collecting _ ends _ => some ends
  | _ => none

end Task

end ServerMonitor.Collector
