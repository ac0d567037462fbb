/-
This file models the registry of connected clients and the fan-out of events to
them. Every client has a bounded queue of its own; a client whose queue is full
or gone when an event it wants comes is evicted, so no client sees a gap
followed by a later event.
-/

import ServerMonitor.Bus.Basic
import ServerMonitor.Hub.Filter
import ServerMonitor.Payload.Basic

namespace ServerMonitor

/-- How a client stands with the hub. -/
inductive Standing
  | registered
  /-- It was unregistered. -/
  | left
  | evicted
  /-- It was there when the hub closed. -/
  | cleared
deriving DecidableEq, Inhabited

structure Client where
  id : Nat
  filter : Filter
  /-- The events that wait for it, oldest first. -/
  outbox : List Event
  /-- Whether someone still receives from the outbox. -/
  listening : Bool
  standing : Standing

structure Registry where
  /-- How many events wait for one client. -/
  capacity : Nat
  /-- Every client that was ever registered, in that order. -/
  clients : List Client
  nextId : Nat
  closed : Bool
  /-- Events put into outboxes, modulo `2 ^ 64`. -/
  delivered : UInt64
  /-- Clients evicted, modulo `2 ^ 64`. -/
  evicted : UInt64

/-- What a fan-out does to one client. -/
inductive Reach
  /-- The client does not want the event or is no longer registered. -/
  | skipped
  | reached
  /-- The client is to be evicted. -/
  | slow
deriving DecidableEq

namespace Client

def isRegistered (client : Client) : Bool := client.standing = .registered

/-- What an event with this name does to a client. -/
def reach (client : Client) (capacity : Nat) (name : String) : Reach :=
  if !client.isRegistered || !client.filter.accepts name then .skipped
  else if client.listening && client.outbox.length < capacity then .reached
  else .slow

/-- The client after the scan of a fan-out has passed it. -/
def take (client : Client) (capacity : Nat) (event : Event) : Client :=
  if client.reach capacity event.name = .reached then
    { client with outbox := client.outbox ++ [event] }
  else client

end Client

namespace Registry

/-- A registry whose clients have room for as many events as given, at least one. -/
def withCapacity (capacity : Nat) : Registry := ⟨max capacity 1, [], 1, false, 0, 0⟩

/-! ### What the registry shows -/

def client? (registry : Registry) (id : Nat) : Option Client :=
  registry.clients.find? fun client => client.id = id

/-- The clients that are registered. -/
def members (registry : Registry) : List Client := registry.clients.filter (·.isRegistered)

def clientCount (registry : Registry) : Nat := registry.members.length

def contains (registry : Registry) (id : Nat) : Bool :=
  registry.members.any fun client => client.id = id

/-- The counters as a diagnostic text. -/
def debugCounters (connected : Nat) (delivered evicted : UInt64) : String :=
  s!"HubStats \x7b connected: {connected}, delivered: {delivered}, evicted: {evicted} \x7d"

/-- The registry as a diagnostic text. -/
def debug (registry : Registry) : String :=
  let counters := debugCounters registry.clientCount registry.delivered registry.evicted
  s!"HubRegistry \x7b stats: {counters} \x7d"

/-! ### Clients -/

/-- Changes one client. -/
def update (registry : Registry) (id : Nat) (change : Client → Client) : Registry :=
  { registry with
    clients := registry.clients.map fun client => if client.id = id then change client else client }

/-- Registers a client without a filter, unless the registry is closed. -/
def register (registry : Registry) : Registry × Option Nat :=
  if registry.closed then (registry, none)
  else
    ({ registry with
      clients := registry.clients ++ [⟨registry.nextId, .everything, [], true, .registered⟩]
      nextId := registry.nextId + 1 }, some registry.nextId)

/-- Removes a client if it is registered, and yields whether it was. -/
def unregister (registry : Registry) (id : Nat) : Registry × Bool :=
  (registry.update id fun client =>
    if client.isRegistered then { client with standing := .left } else client,
    registry.contains id)

def setFilter (registry : Registry) (id : Nat) (filter : Filter) : Registry :=
  registry.update id fun client => { client with filter }

/-- Lets a client change its filter by a text frame. -/
def control (registry : Registry) (id : Nat) (text : String) : Registry :=
  registry.update id fun client => { client with filter := client.filter.control text }

/-- Forgets the receiver of a client; what waits for it is lost. -/
def dropReceiver (registry : Registry) (id : Nat) : Registry :=
  registry.update id fun client => { client with listening := false, outbox := [] }

/-- Takes the oldest event that waits for a client. -/
def receive (registry : Registry) (id : Nat) : Registry × Receipt Event :=
  match registry.client? id with
  | none => (registry, .closed)
  | some client =>
    match client.outbox with
    | event :: rest =>
      (registry.update id fun other => { other with outbox := rest }, .message event)
    | [] => (registry, if client.isRegistered then .empty else .closed)

/-! ### Fan-out -/

/-- What the scan of a fan-out found. -/
structure Scan where
  reached : Nat
  slow : List Nat

/-- Puts an event into the outbox of every client that wants it and has room. -/
def scan (registry : Registry) (event : Event) : Registry × Scan :=
  ({ registry with
      clients := registry.clients.map fun client => client.take registry.capacity event },
    { reached := registry.clients.countP fun client =>
        client.reach registry.capacity event.name = .reached
      slow := (registry.clients.filter fun client =>
        client.reach registry.capacity event.name = .slow).map (·.id) })

/-- Removes the clients that the scan found slow and are still registered; yields their number. -/
def evict (registry : Registry) (slow : List Nat) : Registry × Nat :=
  let isVictim (client : Client) : Bool := client.isRegistered && slow.contains client.id
  ({ registry with
    clients := registry.clients.map fun client =>
      if isVictim client then { client with standing := .evicted } else client },
    registry.clients.countP isVictim)

/-- Adds to the counters. -/
def count (registry : Registry) (delivered evicted : Nat) : Registry :=
  { registry with
    delivered := registry.delivered + UInt64.ofNat delivered
    evicted := registry.evicted + UInt64.ofNat evicted }

/-- Queues an event for every client that wants it, evicts the clients that have no room and
yields how many were reached. -/
def fanOut (registry : Registry) (event : Event) : Registry × Nat :=
  let (scanned, found) := registry.scan event
  let (remaining, evicted) := scanned.evict found.slow
  (remaining.count found.reached evicted, found.reached)

/-- Removes all clients and refuses further ones. -/
def shutdown (registry : Registry) : Registry :=
  { registry with
    closed := true
    clients := registry.clients.map fun client =>
      if client.isRegistered then { client with standing := .cleared } else client }

end Registry

end ServerMonitor
