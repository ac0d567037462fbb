/-
This file starts an agent from its settings: the collectors are registered at
the intervals that the settings give, the built-in one first, and everything is
started before the agent is handed out.
-/

import ServerMonitor.Agent.Control

namespace ServerMonitor

/-- Whether the queue of the hub can be made. It is made before the queues on the bus, and the hub
runs from then on. -/
def Settings.canStartHub (settings : Settings) : Bool :=
  settings.stream.broadcastBuffer.toNat ≤ longestQueue

/-- Whether the queues that are made at the start can be made. The queues of clients are made when
clients come. -/
def Settings.canStart (settings : Settings) : Bool :=
  settings.busBuffer.toNat ≤ longestQueue && settings.canStartHub

namespace Agent

open Collector

/-- The name of the built-in collector. -/
def hostCollector : String := "system"

/-- The plan of the built-in collector, which publishes what it measures of the host. -/
def hostPlan (measured : HostInfo) : Plan := fun _ =>
  ⟨0, some (Kind.host.topic, ⟨.host, measured⟩), .success⟩

/-- Registers a collector at the interval that the settings give. -/
def registerBy (settings : Settings) (agent : Agent) (name : String) (plan : Plan)
    (required : Bool) : Agent :=
  agent.register name plan (settings.interval name) required

/-- The cache of an agent with these settings, unless it is given another one. -/
def cacheFor (settings : Settings) : Cache :=
  Cache.empty.withLifetime (settings.networkServicesTtl.toNat * 1000)

/-- Starts an agent; `measured` is what the built-in collector measures, if it is wanted. -/
def start (settings : Settings) (cache : Cache) (clock : Clock) (measured : Option HostInfo)
    (collectors : List (String × Plan)) : Agent :=
  let assembled := (assemble settings.busBuffer.toNat settings.stream.rules settings.crossOrigin
    cache clock).subscribe
  let builtIn := measured.elim assembled fun measured =>
    registerBy settings assembled hostCollector (hostPlan measured) true
  let registered := collectors.foldl
    (fun agent collector => registerBy settings agent collector.1 collector.2 false) builtIn
  registered.startCollectors.1

/-- An agent whose port is taken: everything started is stopped and aborted. -/
def withdraw (agent : Agent) : Agent :=
  let (stopped, tasks) := agent.cancel.stopCollectors
  { stopped with roster := stopped.roster.abortTasks (tasks.map Prod.snd) }.rest

end Agent

end ServerMonitor
