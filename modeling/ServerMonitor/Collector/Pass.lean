/-
This file models what collectors do: a collector is a plan of passes, and a
pass may take time, publish a payload and end well, badly or not at all.
-/

import ServerMonitor.Payload.Basic

namespace ServerMonitor.Collector

/-- How a pass ends once it has published what it has to publish. -/
inductive Ending
  | success
  | failure
  /-- It never ends. -/
  | hang
  /-- It takes its task down with it. -/
  | panic
deriving DecidableEq, Inhabited

structure Pass where
  /-- The milliseconds before the pass does anything. -/
  delay : Nat
  /-- What it publishes, and on which topic. -/
  announcement : Option (String × Payload)
  ending : Ending

namespace Pass

/-- The pass that does nothing and succeeds. -/
def idle : Pass := ⟨0, none, .success⟩

end Pass

/-- The passes of a collector by number. -/
abbrev Plan := Nat → Pass

/-- The plan that goes through a list of passes and repeats the last one. -/
def Plan.ofList (passes : List Pass) : Plan := fun number =>
  (passes[min number (passes.length - 1)]?).getD .idle

end ServerMonitor.Collector
