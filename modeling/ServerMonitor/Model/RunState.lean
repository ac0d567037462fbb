/-
This file models the lifecycle of a managed collector.
-/

namespace ServerMonitor

inductive RunState
  /-- Registered with an interval, not started yet. -/
  | registered
  | running
  | stopped
  /-- Registered with interval zero. -/
  | disabled
deriving DecidableEq, Inhabited

namespace RunState

def all : List RunState := [registered, running, stopped, disabled]

def name : RunState → String
  | registered => "registered"
  | running => "running"
  | stopped => "stopped"
  | disabled => "disabled"

def ofName? (name : String) : Option RunState := all.find? fun state => state.name = name

theorem ofName?_name (state : RunState) : ofName? state.name = some state := by
  cases state <;> decide

end RunState

end ServerMonitor
