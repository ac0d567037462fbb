/-
This file assembles the agent: the bus, the cache and the loop that feeds it,
the hub and the loop that feeds it, the collectors and the live connections.
Each part takes its own steps; the agent is at rest when no part can take one.
Timers have a clock of their own, which is apart from the clocks of the host.
-/

import ServerMonitor.Agent.Consumer
import ServerMonitor.Cache.Binding
import ServerMonitor.Collector.Roster
import ServerMonitor.Connection.Basic
import ServerMonitor.Hub.Basic

namespace ServerMonitor

/-- What the clocks of the host show. -/
structure Clock where
  instant : Instant
  /-- Milliseconds of a clock that is never set back. -/
  elapsed : Nat

structure Agent where
  bus : Bus Payload
  cache : Cache
  hub : Hub
  roster : Roster
  cacheLoop : Consumer
  broadcastLoop : Consumer
  connections : List Connection
  rules : StreamRules
  /-- Whether answers allow requests from other origins. -/
  crossOrigin : Bool
  /-- Whether the token above all tasks is cancelled. -/
  cancelled : Bool
  /-- Milliseconds of the timers' clock. -/
  time : Nat
  clock : Clock
  startedAt : Instant

namespace Agent

/-! ### Assembly -/

/-- An agent without consumers and collectors. -/
def assemble (busBuffer : Nat) (rules : StreamRules) (crossOrigin : Bool) (cache : Cache)
    (clock : Clock) : Agent where
  bus := .withCapacity busBuffer
  cache
  hub := .start rules.clientBuffer rules.broadcastBuffer
  roster := .empty
  cacheLoop := .absent
  broadcastLoop := .absent
  connections := []
  rules
  crossOrigin
  cancelled := false
  time := 0
  clock
  startedAt := clock.instant

/-- Starts the loops that feed the cache and the hub. -/
def subscribe (agent : Agent) : Agent :=
  let (bus, cacheLoop) := Consumer.start agent.bus Dispatch.standard.topics
  let (bus, broadcastLoop) := Consumer.start bus broadcastTopics
  { agent with bus, cacheLoop, broadcastLoop }

/-! ### Steps of the parts -/

/-- One step of a collector's task. -/
def stepCollector? (task : Nat) (agent : Agent) : Option Agent :=
  (agent.roster.stepTask? agent.bus task agent.time agent.clock.instant).map fun (roster, bus) =>
    { agent with roster, bus }

/-- One step of the loop that feeds the cache. -/
def stepCacheLoop? (agent : Agent) : Option Agent :=
  (agent.cacheLoop.step? agent.cancelled agent.bus).map fun ((cacheLoop, bus), taken) =>
    let cache := taken.elim agent.cache fun payload =>
      (Dispatch.standard.apply payload agent.cache).1
    { agent with cacheLoop, bus, cache }

/-- One step of the loop that feeds the hub. -/
def stepBroadcastLoop? (agent : Agent) : Option Agent :=
  (agent.broadcastLoop.step? agent.cancelled agent.bus).map fun ((broadcastLoop, bus), taken) =>
    let hub := taken.elim agent.hub fun payload =>
      (agent.hub.broadcast ⟨payload, agent.clock.instant⟩).1
    { agent with broadcastLoop, bus, hub }

/-- One step of the hub. -/
def stepHub? (agent : Agent) : Option Agent :=
  if agent.hub.isReady then some { agent with hub := agent.hub.step } else none

/-! ### Coming to rest -/

/-- Takes steps until none is possible, at most as many as given. -/
def repeatStep (step? : Agent → Option Agent) : Nat → Agent → Agent
  | 0, agent => agent
  | steps + 1, agent => (step? agent).elim agent (repeatStep step? steps)

/-- A task can begin a pass, end it and end itself, all at one time. -/
def restCollectors (agent : Agent) : Agent :=
  (agent.roster.tasks.map (·.id)).foldl
    (fun agent task => agent.repeatStep (stepCollector? task) 3) agent

def restCacheLoop (agent : Agent) : Agent :=
  agent.repeatStep stepCacheLoop? (agent.cacheLoop.stepBound agent.bus)

def restBroadcastLoop (agent : Agent) : Agent :=
  agent.repeatStep stepBroadcastLoop? (agent.broadcastLoop.stepBound agent.bus)

def restHub (agent : Agent) : Agent :=
  agent.repeatStep stepHub? (agent.hub.queue.length + 1)

/-- Lets connections take all their steps, one connection after the other. -/
def restEach (rules : StreamRules) (time : Nat) (registry : Registry) :
    List Connection → List Connection × Registry
  | [] => ([], registry)
  | connection :: others =>
    let (connection, registry) := connection.rest rules time false registry
    let (others, registry) := restEach rules time registry others
    (connection :: others, registry)

def restConnections (agent : Agent) : Agent :=
  let (connections, registry) :=
    restEach agent.rules agent.time agent.hub.registry agent.connections
  { agent with connections, hub := { agent.hub with registry } }

/-- Lets every part take all its steps. Messages flow in one direction, so one round is enough. -/
def rest (agent : Agent) : Agent :=
  agent.restCollectors.restCacheLoop.restBroadcastLoop.restHub.restConnections

/-! ### Time -/

/-- The times at which timers go off. -/
def wakeTimes (agent : Agent) : List Nat :=
  (agent.roster.tasks.filter (·.isLive)).filterMap (·.wakesAt?) ++
    agent.connections.flatMap (·.wakeTimes)

/-- The first time in an interval at which a timer goes off. -/
def nextWake? (agent : Agent) (target : Nat) : Option Nat :=
  (agent.wakeTimes.filter fun time => agent.time < time && time ≤ target).min?

/-- Lets timers go off one after the other until a time, at most as many as given. -/
def advance (target : Nat) : Nat → Agent → Agent
  | 0, agent => agent
  | timers + 1, agent =>
    match agent.nextWake? target with
    | some time => advance target timers { agent with time }.rest
    | none => agent

/-- Lets time pass. -/
def wait (agent : Agent) (milliseconds : Nat) : Agent :=
  let target := agent.time + milliseconds
  { agent.advance target milliseconds with time := target }.rest

end Agent

end ServerMonitor
