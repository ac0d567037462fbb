/-
This file lists why a request to control a collector is refused.
-/

import ServerMonitor.Collector.Interval

namespace ServerMonitor.Collector

inductive Refusal
  | unknown (name : String)
  /-- A required collector cannot be disabled. -/
  | required (name : String)
  | interval (seconds : UInt64)
deriving DecidableEq

def Refusal.message : Refusal → String
  | unknown name => s!"unknown collector: {name}"
  | required name => s!"cannot disable {name} collector (always required)"
  | interval seconds =>
    s!"invalid interval {seconds}s: must be between {shortestInterval} and " ++
      s!"{longestInterval} seconds"

end ServerMonitor.Collector
