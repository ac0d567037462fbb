/-
This file models what can be asked of a running agent from inside: to publish a
payload, to control its collectors, to serve a peer and to stop. Each request is
one step; what follows from it happens when the agent comes to rest.
-/

import ServerMonitor.Agent.Basic
import ServerMonitor.Bus.Topic

namespace ServerMonitor.Agent

open Collector

/-! ### Payloads -/

/-- Publishes a payload and yields how many mailboxes took it. -/
def publish (agent : Agent) (topic : String) (payload : Payload) : Agent × Nat :=
  let (bus, delivered) := agent.bus.publish topic payload
  ({ agent with bus }, delivered)

/-- Hands a payload to the hub and yields whether it was taken. -/
def broadcast (agent : Agent) (payload : Payload) : Agent × Bool :=
  let (hub, taken) := agent.hub.broadcast ⟨payload, agent.clock.instant⟩
  ({ agent with hub }, taken)

/-! ### Collectors -/

/-- The topic on which changes of collectors are announced. -/
def stateTopic : Topic CollectorStateEvent := ⟨Kind.collectorState.topic⟩

/-- Announces a change of a collector, if there was one. -/
def announceState (agent : Agent) (change : Option CollectorStateEvent) : Agent :=
  match change with
  | some event =>
    { agent with bus := (agent.bus.announce stateTopic (⟨.collectorState, ·⟩) event).1 }
  | none => agent

def register (agent : Agent) (name : String) (plan : Plan) (interval : UInt64) (required : Bool) :
    Agent :=
  { agent with roster := agent.roster.register name plan interval required }

/-- Starts all collectors that can be started and yields their number. -/
def startCollectors (agent : Agent) : Agent × Nat :=
  let (roster, started) := agent.roster.startAll agent.time
  ({ agent with roster }, started)

/-- Stops all collectors and yields the tasks handed back by name. -/
def stopCollectors (agent : Agent) : Agent × List (String × Nat) :=
  let (roster, stopped) := agent.roster.stopAll
  ({ agent with roster }, stopped)

def enable (agent : Agent) (name : String) : Except Refusal Agent :=
  (agent.roster.enable name agent.time agent.clock.instant).map fun (roster, change) =>
    { agent with roster }.announceState change

def disable (agent : Agent) (name : String) : Except Refusal Agent :=
  (agent.roster.disable name agent.clock.instant).map fun (roster, change) =>
    { agent with roster }.announceState change

def changeInterval (agent : Agent) (name : String) (seconds : UInt64) : Except Refusal Agent :=
  (agent.roster.changeInterval name seconds agent.time).map fun roster => { agent with roster }

/-! ### Peers -/

/-- Starts to serve a peer over a line with the given capacity. -/
def connect (agent : Agent) (attentive : Bool) (capacity : Nat) : Agent :=
  let (connection, registry) := Connection.start agent.rules agent.time agent.hub.registry
    (.empty capacity) (.arrive attentive)
  { agent with
    connections := agent.connections ++ [connection]
    hub := { agent.hub with registry } }

/-- Changes one connection. -/
def modifyConnection (agent : Agent) (index : Nat) (change : Connection → Connection) : Agent :=
  { agent with connections := agent.connections.modify index change }

/-- A frame from the peer of a connection, and whether it was taken. -/
def offer (agent : Agent) (index : Nat) (frame : Frame) : Agent × Bool :=
  (agent.modifyConnection index fun connection => (connection.offer frame).1,
    agent.connections[index]?.any fun connection => (connection.offer frame).2)

/-- Lets the peer of a connection read what there is. -/
def look (agent : Agent) (index : Nat) : Agent :=
  match agent.connections[index]? with
  | some connection =>
    let (connection, registry) :=
      connection.rest agent.rules agent.time true agent.hub.registry
    { agent with
      connections := agent.connections.set index connection
      hub := { agent.hub with registry } }
  | none => agent

/-- What the peer of a connection has seen. -/
def seen (agent : Agent) (index : Nat) : List Sight :=
  (agent.connections[index]?.map fun connection => connection.peer.seen).getD []

/-- The agent after the peer of a connection forgot what it had seen. -/
def forgetSeen (agent : Agent) (index : Nat) : Agent :=
  agent.modifyConnection index fun connection =>
    { connection with peer := { connection.peer with seen := [] } }

/-! ### The end -/

/-- Cancels the token above all tasks. -/
def cancel (agent : Agent) : Agent :=
  { agent with
    cancelled := true
    hub := agent.hub.cancel
    roster := { agent.roster with shutdown := true } }

/-- Aborts every task that still runs. -/
def abort (agent : Agent) : Agent :=
  let (cacheLoop, bus) := agent.cacheLoop.abort agent.bus
  let (broadcastLoop, bus) := agent.broadcastLoop.abort bus
  { agent with
    bus, cacheLoop, broadcastLoop
    hub := { agent.hub with queue := [], running := false }
    roster := agent.roster.abortTasks (agent.roster.tasks.map (·.id)) }

/-- Stops everything. Tasks end by themselves when they have time to; without any they are
aborted before they notice. -/
def shutdown (agent : Agent) (graceSeconds : Nat) : Agent :=
  let stopped := agent.cancel.stopCollectors.1
  (if graceSeconds = 0 then stopped.abort else stopped).rest

end ServerMonitor.Agent
