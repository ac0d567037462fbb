/-
This file models the queue between the broadcasts and the fan-out of a hub, and
the loop that empties it. Handing over an event never waits. The loop ends when
it sees that it was cancelled, and closes the registry on its way out.
-/

import ServerMonitor.Hub.Registry

namespace ServerMonitor

structure Hub where
  registry : Registry
  /-- Events handed over and not yet fanned out, oldest first. -/
  queue : List Event
  /-- How many events wait to be fanned out. -/
  capacity : Nat
  cancelled : Bool
  /-- Whether the loop has not ended. -/
  running : Bool

namespace Hub

def start (clientCapacity broadcastCapacity : Nat) : Hub :=
  ⟨Registry.withCapacity clientCapacity, [], max broadcastCapacity 1, false, true⟩

/-- Hands an event over and yields whether it was taken. -/
def broadcast (hub : Hub) (event : Event) : Hub × Bool :=
  if hub.running && hub.queue.length < hub.capacity then
    ({ hub with queue := hub.queue ++ [event] }, true)
  else (hub, false)

def cancel (hub : Hub) : Hub := { hub with cancelled := true }

/-- Whether the loop can take a step. -/
def isReady (hub : Hub) : Bool := hub.running && (hub.cancelled || !hub.queue.isEmpty)

/-- One step of the loop. -/
def step (hub : Hub) : Hub :=
  if !hub.running then hub
  else if hub.cancelled then
    { hub with registry := hub.registry.shutdown, queue := [], running := false }
  else
    match hub.queue with
    | event :: rest => { hub with registry := (hub.registry.fanOut event).1, queue := rest }
    | [] => hub

/-- The hub as a diagnostic text. -/
def debug (hub : Hub) : String := s!"WsHub \x7b registry: {hub.registry.debug} \x7d"

end Hub

end ServerMonitor
