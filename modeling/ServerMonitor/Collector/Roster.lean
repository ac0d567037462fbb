/-
This file models the roster of registered collectors and the requests that
control them. Every running collector is one task with a token of its own;
tokens hang below one that stops all collectors. Restarting a collector aborts
the old task before the new one is started.
-/

import ServerMonitor.Bus.Basic
import ServerMonitor.Collector.Refusal
import ServerMonitor.Collector.Task
import ServerMonitor.Model.CollectorStatus

namespace ServerMonitor

namespace Collector

/-- A collector as it was registered, with the record of its passes. -/
structure Registration where
  name : String
  plan : Plan
  /-- The passes begun. -/
  begun : Nat
  /-- The passes that succeeded. -/
  succeeded : Nat
  /-- The passes that failed. -/
  errors : UInt64
  /-- When the latest completed pass ended. -/
  lastRun : Option Instant

/-- What is kept under the name of a collector. -/
structure Entry where
  name : String
  /-- Which registration the name stands for. -/
  registration : Nat
  enabled : Bool
  /-- Seconds between passes, zero while disabled. -/
  interval : UInt64
  state : RunState
  required : Bool
  /-- The task whose token is held. -/
  token : Option Nat
  /-- The task whose handle is held. -/
  handle : Option Nat

end Collector

open Collector

structure Roster where
  /-- The collectors in the order in which their names first came. -/
  entries : List Entry
  /-- Every registration ever made. -/
  registrations : List Registration
  /-- Every task ever started. -/
  tasks : List Task
  /-- Whether the token above all tasks is cancelled. -/
  shutdown : Bool

namespace Roster

def empty : Roster := ⟨[], [], [], false⟩

/-! ### Access -/

def entry? (roster : Roster) (name : String) : Option Entry :=
  roster.entries.find? fun entry => entry.name = name

def task? (roster : Roster) (id : Nat) : Option Task :=
  roster.tasks.find? fun task => task.id = id

/-- The names of all collectors in ascending order. -/
def names (roster : Roster) : List String :=
  (roster.entries.map (·.name)).mergeSort fun left right => decide (left ≤ right)

/-- Replaces the entry of a name, or adds it at the end. -/
def putEntry (entry : Entry) : List Entry → List Entry
  | [] => [entry]
  | other :: rest =>
    if other.name = entry.name then entry :: rest else other :: putEntry entry rest

def setEntry (roster : Roster) (entry : Entry) : Roster :=
  { roster with entries := putEntry entry roster.entries }

def updateTask (roster : Roster) (id : Nat) (change : Task → Task) : Roster :=
  { roster with
    tasks := roster.tasks.map fun task => if task.id = id then change task else task }

def updateRegistration (roster : Roster) (index : Nat) (change : Registration → Registration) :
    Roster :=
  { roster with registrations := roster.registrations.modify index change }

/-- Aborts the tasks with the given numbers. -/
def abortTasks (roster : Roster) (ids : List Nat) : Roster :=
  { roster with
    tasks := roster.tasks.map fun task =>
      if ids.contains task.id then { task with aborted := true } else task }

/-! ### Reports -/

def statusOf (roster : Roster) (entry : Entry) : CollectorStatus :=
  let record := roster.registrations[entry.registration]?
  { name := entry.name
    enabled := entry.enabled
    interval := entry.interval
    state := entry.state
    lastRun := record.bind (·.lastRun)
    errors := (record.map (·.errors)).getD 0
    required := entry.required }

def status (roster : Roster) (name : String) : Except Refusal CollectorStatus :=
  match roster.entry? name with
  | some entry => .ok (roster.statusOf entry)
  | none => .error (.unknown name)

/-- The names in the order in which they are listed. -/
def listing (roster : Roster) : List String :=
  listingOrder ++ roster.names.filter fun name => !listingOrder.contains name

/-- The status of every collector with the counts. -/
def allStatus (roster : Roster) (now : Instant) : CollectorsStatus :=
  let statuses := (roster.listing.filterMap roster.entry?).map roster.statusOf
  let enabled := statuses.countP fun status => status.enabled || status.state = .running
  { collectors := statuses
    total := UInt64.ofNat statuses.length
    enabled := UInt64.ofNat enabled
    disabled := UInt64.ofNat (statuses.length - enabled)
    timestamp := now }

/-- The event that announces the state of a collector. -/
def stateEvent (entry : Entry) (now : Instant) : CollectorStateEvent where
  event := Kind.collectorState.topic
  collector := entry.name
  enabled := entry.enabled
  state := entry.state
  interval := entry.interval
  timestamp := now

/-! ### Starting and stopping -/

/-- Starts a task for an entry. -/
def start (roster : Roster) (entry : Entry) (time : Nat) : Roster :=
  let id := roster.tasks.length
  let task := Task.start id entry.registration (entry.interval.toNat * 1000) time
  { roster with tasks := roster.tasks ++ [task] }.setEntry
    { entry with token := some id, handle := some id, state := .running, enabled := true }

/-- Cancels the task whose token an entry holds. -/
def cancelToken (roster : Roster) (entry : Entry) : Roster :=
  match entry.token with
  | some id => roster.updateTask id Task.cancel
  | none => roster

/-- Aborts the task whose handle an entry holds. -/
def abortHandle (roster : Roster) (entry : Entry) : Roster :=
  match entry.handle with
  | some id => roster.abortTasks [id]
  | none => roster

/-- An entry whose token and handle were given up. -/
def stopped (entry : Entry) : Entry :=
  { entry with token := none, handle := none, state := .stopped }

/-- Cancels and aborts the task of an entry. -/
def halt (roster : Roster) (entry : Entry) : Roster :=
  ((roster.cancelToken entry).abortHandle entry).setEntry (stopped entry)

/-! ### Requests -/

/-- Registers a collector; interval zero registers it disabled. A collector registered before
under the name is replaced and its task aborted. -/
def register (roster : Roster) (name : String) (plan : Plan) (interval : UInt64)
    (required : Bool) : Roster :=
  let enabled := interval ≠ 0
  let entry : Entry := {
    name
    registration := roster.registrations.length
    enabled
    interval
    state := if enabled then .registered else .disabled
    required
    token := none
    handle := none }
  let record : Registration := ⟨name, plan, 0, 0, 0, none⟩
  let added := { roster with registrations := roster.registrations ++ [record] }
  match roster.entry? name with
  | some previous => ((added.cancelToken previous).abortHandle previous).setEntry entry
  | none => added.setEntry entry

/-- Whether starting all collectors starts this one. -/
def isStartable (entry : Entry) : Bool :=
  entry.enabled && 0 < entry.interval && entry.state ≠ .running

/-- Starts every enabled collector that is not running and yields how many were started. -/
def startAll (roster : Roster) (time : Nat) : Roster × Nat :=
  let startable := roster.entries.filter isStartable
  (startable.foldl (fun roster entry => roster.start entry time) roster, startable.length)

/-- Cancels the task of every collector that has one, and yields the tasks handed back by name. -/
def stopAll (roster : Roster) : Roster × List (String × Nat) :=
  let stoppable := roster.entries.filter fun entry => entry.token.isSome
  (stoppable.foldl (fun roster entry => (roster.cancelToken entry).setEntry (stopped entry)) roster,
    stoppable.filterMap fun entry => entry.handle.map fun id => (entry.name, id))

/-- Starts a collector; one that is running is left alone. Yields the event to publish. -/
def enable (roster : Roster) (name : String) (time : Nat) (now : Instant) :
    Except Refusal (Roster × Option CollectorStateEvent) :=
  match roster.entry? name with
  | none => .error (.unknown name)
  | some entry =>
    if entry.state = .running then .ok (roster, none)
    else
      let interval := if entry.interval = 0 then defaultInterval name else entry.interval
      let started := roster.start { entry with interval } time
      .ok (started, (started.entry? name).map fun entry => stateEvent entry now)

/-- Stops a collector unless it is required; one that is not running is left alone. Yields the
event to publish. -/
def disable (roster : Roster) (name : String) (now : Instant) :
    Except Refusal (Roster × Option CollectorStateEvent) :=
  match roster.entry? name with
  | none => .error (.unknown name)
  | some entry =>
    if entry.required then .error (.required name)
    else if entry.state ≠ .running then .ok (roster, none)
    else
      let halted := (roster.halt entry).setEntry { stopped entry with enabled := false }
      .ok (halted, (halted.entry? name).map fun entry => stateEvent entry now)

/-- Changes the interval of a collector and restarts it if it is running. -/
def changeInterval (roster : Roster) (name : String) (seconds : UInt64) (time : Nat) :
    Except Refusal Roster :=
  match roster.entry? name with
  | none => .error (.unknown name)
  | some entry =>
    if !isAllowedInterval seconds then .error (.interval seconds)
    else if entry.state = .running then
      .ok ((roster.halt entry).start { stopped entry with interval := seconds } time)
    else .ok (roster.setEntry { entry with interval := seconds })

/-! ### Tasks -/

/-- The record of a registration after one of its passes ended. -/
def record (registration : Registration) (pass : Pass) (now : Instant) : Registration :=
  match pass.ending with
  | .success =>
    { registration with succeeded := registration.succeeded + 1, lastRun := some now }
  | .failure => { registration with errors := registration.errors + 1, lastRun := some now }
  | .hang | .panic => registration

/-- Publishes what a pass has to publish. -/
def publish (bus : Bus Payload) (pass : Pass) : Bus Payload :=
  match pass.announcement with
  | some (topic, payload) => (bus.publish topic payload).1
  | none => bus

/-- The roster and the bus after a task has become another, and what happened thereby. -/
def stepped (roster : Roster) (bus : Bus Payload) (task : Task) (now : Instant) :
    Task.Event → Roster × Bus Payload
  | .quiet => (roster.updateTask task.id fun _ => task, bus)
  | .began =>
    ((roster.updateTask task.id fun _ => task).updateRegistration task.registration
      fun registration => { registration with begun := registration.begun + 1 }, bus)
  | .ended pass =>
    ((roster.updateTask task.id fun _ => task).updateRegistration task.registration
      fun registration => record registration pass now, publish bus pass)
  | .stuck pass => (roster.updateTask task.id fun _ => task, publish bus pass)

/-- Lets a task take a step of a given kind, if it can take one. -/
def takeStep? (roster : Roster) (bus : Bus Payload) (id : Nat) (now : Instant)
    (step? : Task → Pass → Option (Task × Task.Event)) : Option (Roster × Bus Payload) := do
  let task ← roster.task? id
  let registration ← roster.registrations[task.registration]?
  let (moved, event) ← step? task (registration.plan registration.begun)
  some (roster.stepped bus moved now event)

/-- One step of a task, if it can take one. -/
def stepTask? (roster : Roster) (bus : Bus Payload) (id time : Nat) (now : Instant) :
    Option (Roster × Bus Payload) :=
  roster.takeStep? bus id now fun task next => task.step? time roster.shutdown next

/-- One step of a task as if it had not been told to stop, if it can take one. -/
def stepHeedless? (roster : Roster) (bus : Bus Payload) (id time : Nat) (now : Instant) :
    Option (Roster × Bus Payload) :=
  roster.takeStep? bus id now fun task next => task.stepHeedless? time next

/-- The number of passes in progress of a registration. -/
def activePasses (roster : Roster) (registration : Nat) : Nat :=
  roster.tasks.countP fun task => task.registration = registration && task.phase.isActive

/-- Whether a task that was handed back ended by itself. -/
def endedWell (roster : Roster) (id : Nat) : Bool :=
  (roster.task? id).any fun task => match task.phase with
    | .finished => true
    | _ => false

end Roster

end ServerMonitor
