/-
This file models a live connection: a reader, a writer and a handler that waits
for both. The connection is one client of the registry; whichever task ends
first, the handler ends the other one and unregisters the client. When the
reader ends first, the writer has a grace period to send what is queued and the
close frame.
-/

import ServerMonitor.Connection.Peer
import ServerMonitor.Connection.Writer
import ServerMonitor.Hub.Registry
import ServerMonitor.Settings.Basic

namespace ServerMonitor

/-- What the handler of a connection is doing. -/
inductive Handler
  /-- It waits for the reader or the writer to end. -/
  | serving
  /-- The reader has ended and the writer has time until the given instant. -/
  | draining (deadline : Nat)
  | returned
deriving DecidableEq

structure Connection where
  /-- The client it is registered as; none if the hub was closed. -/
  client : Option Nat
  reader : Reader
  writer : Writer
  handler : Handler
  /-- Frames of the peer that were not read, oldest first. -/
  inbound : List Frame
  line : Line
  /-- Whether the close frame of the peer was read, after which nothing can be sent. -/
  closing : Bool
  peer : Peer

namespace Connection

/-! ### Access -/

def hasReturned (connection : Connection) : Bool := connection.handler = .returned

/-- Whether a frame that the server sends now is taken. -/
def canSend (connection : Connection) : Bool := !connection.peer.gone && !connection.closing

def send (connection : Connection) (frame : Frame) : Connection :=
  { connection with line := connection.line.send frame }

/-! ### Start -/

/-- A connection whose handler has returned before it had a client. -/
def unserved (line : Line) (peer : Peer) : Connection where
  client := none
  reader := ⟨0, false⟩
  writer := ⟨0, false⟩
  handler := .returned
  inbound := []
  line
  closing := false
  peer

/-- A connection that the hub refused: it is closed at once. -/
def refused (line : Line) (peer : Peer) : Connection := unserved (line.send .close) peer

/-- Starts to serve a peer. The handler breaks down if no queue can be made for the client. -/
def start (rules : StreamRules) (now : Nat) (registry : Registry) (line : Line) (peer : Peer) :
    Connection × Registry :=
  if longestQueue < registry.capacity then (unserved line peer, registry)
  else
    match registry.register with
    | (registry, none) => (refused line peer, registry)
    | (registry, some client) =>
      let writer := Writer.start rules.pingInterval now
      ({ client := some client
         reader := Reader.start rules.readTimeout now
         writer
         handler := .serving
         inbound := []
         line
         closing := false
         peer },
        if writer.running then registry else registry.dropReceiver client)

/-! ### Reading -/

/-- What the reader meets, if it need not wait. -/
def arrival? (connection : Connection) (now : Nat) : Option (Arrival × List Frame) :=
  match connection.inbound with
  | frame :: rest => some (.ofFrame frame, rest)
  | [] =>
    if connection.peer.gone then some (.finish, [])
    else if connection.reader.isLate now then some (.failure, [])
    else none

/-- The connection after its reader has met something. A close frame of the peer is answered only
if the writer is in the middle of sending. -/
def meet (connection : Connection) (rules : StreamRules) (now : Nat) (arrival : Arrival)
    (rest : List Frame) : Connection :=
  let closed := arrival = .frame .close
  let reply? := if closed && connection.line.isBlocked then some .close else arrival.reply?
  { connection with
    reader := connection.reader.accept rules.readTimeout now arrival
    inbound := rest
    closing := connection.closing || closed
    line := reply?.toList.foldl Line.send connection.line }

/-- One step of the reader. -/
def readStep? (rules : StreamRules) (now : Nat) (connection : Connection) (registry : Registry) :
    Option (Connection × Registry) := do
  let client ← connection.client
  guard connection.reader.running
  let (arrival, rest) ← connection.arrival? now
  let moved := connection.meet rules now arrival rest
  let registry := match arrival.controlText? with
    | some text => registry.control client text
    | none => registry
  some (moved, if arrival.isLast then (registry.unregister client).1 else registry)

/-! ### Writing -/

/-- The next errand of the writer, if it need not wait, and the registry without it. -/
def errand? (connection : Connection) (now client : Nat) (registry : Registry) :
    Option (Errand × Registry) :=
  match registry.receive client with
  | (registry, .message event) => some (.event event, registry)
  | (registry, .closed) => some (.farewell, registry)
  | (registry, .empty) =>
    if connection.writer.isPingDue now then some (.ping, registry) else none

/-- Ends the writer, and with it the queue of its client. -/
def endWriter (connection : Connection) (client : Nat) (registry : Registry) :
    Connection × Registry :=
  ({ connection with writer := connection.writer.stop }, registry.dropReceiver client)

/-- One step of the writer. -/
def writeStep? (rules : StreamRules) (now : Nat) (connection : Connection) (registry : Registry) :
    Option (Connection × Registry) := do
  let client ← connection.client
  guard connection.writer.running
  if connection.line.isBlocked then
    guard connection.peer.gone
    some (connection.endWriter client registry)
  else
    let (errand, registry) ← connection.errand? now client registry
    let sent := connection.canSend
    let written := if sent then connection.send errand.frame else connection
    let moved :=
      { written with writer := connection.writer.settle rules.pingInterval errand sent }
    some (if moved.writer.running then (moved, registry) else moved.endWriter client registry)

/-! ### The handler -/

/-- Ends both tasks and unregisters the client. -/
def finish (connection : Connection) (client : Nat) (registry : Registry) :
    Connection × Registry :=
  ({ connection with
    reader := connection.reader.stop
    writer := connection.writer.stop
    handler := .returned
    inbound := []
    line := connection.line.abandon },
    ((registry.dropReceiver client).unregister client).1)

/-- One step of the handler. -/
def handleStep? (rules : StreamRules) (now : Nat) (connection : Connection) (registry : Registry) :
    Option (Connection × Registry) := do
  let client ← connection.client
  match connection.handler with
  | .serving =>
    if !connection.writer.running then some (connection.finish client registry)
    else if !connection.reader.running then
      some ({ connection with handler := .draining (now + rules.drainGrace) }, registry)
    else none
  | .draining deadline =>
    if !connection.writer.running || deadline ≤ now then some (connection.finish client registry)
    else none
  | .returned => none

/-! ### The peer -/

/-- The connection after the peer has seen its end; it reads no more. -/
def depart (connection : Connection) : Connection :=
  { connection with peer := connection.peer.finish, line := { connection.line with frames := [] } }

/-- The connection after the peer has read a frame. The peer is over when it cannot answer a ping
or has read a close frame. -/
def reveal (connection : Connection) (frame : Frame) : Connection :=
  let shown := { connection with peer := connection.peer.see (.frame frame) }
  match frame with
  | .ping content =>
    if connection.peer.saidClose then shown
    else if connection.hasReturned then shown.depart
    else { shown with inbound := shown.inbound ++ [.pong content] }
  | .close => shown.depart
  | _ => shown

/-- One step of the peer; `looking` makes an inattentive one read. -/
def peerStep? (looking : Bool) (connection : Connection) : Option Connection :=
  if !connection.peer.isThere || !(connection.peer.attentive || looking) then none
  else
    match connection.line.frames with
    | frame :: rest =>
      some ({ connection with line := { connection.line with frames := rest } }.reveal frame)
    | [] => if connection.hasReturned then some connection.depart else none

/-- A frame of the peer, and whether it was taken. -/
def offer (connection : Connection) (frame : Frame) : Connection × Bool :=
  if connection.peer.canSpeak && !connection.hasReturned then
    ({ connection with
      inbound := connection.inbound ++ [frame]
      peer := { connection.peer with saidClose := frame = .close } }, true)
  else (connection, false)

/-- The connection after the peer has left. -/
def lose (connection : Connection) : Connection :=
  { connection with peer := { connection.peer with gone := true } }

/-! ### Steps -/

/-- One step of the reader, or else of the writer, the handler or the peer. -/
def step? (rules : StreamRules) (now : Nat) (looking : Bool) (connection : Connection)
    (registry : Registry) : Option (Connection × Registry) :=
  (connection.readStep? rules now registry).or <|
  (connection.writeStep? rules now registry).or <|
  (connection.handleStep? rules now registry).or <|
  (connection.peerStep? looking).map (·, registry)

/-- When a connection that cannot take a step now can take one, unless something happens to it. -/
def wakeTimes (connection : Connection) : List Nat :=
  (if connection.reader.running then [connection.reader.deadline] else []) ++
  (if connection.writer.running && !connection.line.isBlocked then
    [connection.writer.nextPing] else []) ++
  match connection.handler with
  | .draining deadline => [deadline]
  | _ => []

/-! ### Coming to rest -/

/-- The pings that are due. -/
def duePings (rules : StreamRules) (now : Nat) (connection : Connection) : Nat :=
  if connection.writer.nextPing ≤ now then
    (now - connection.writer.nextPing) / rules.pingInterval + 1
  else 0

/-- The events that wait for the client of a connection. -/
def queued (connection : Connection) (registry : Registry) : Nat :=
  ((connection.client.bind registry.client?).map fun client => client.outbox.length).getD 0

/-- More steps than a connection can take before it waits: a frame of the peer and an event each
cause at most two, a frame on the line two, a ping three, and the end of everything eight. -/
def stepBound (rules : StreamRules) (now : Nat) (connection : Connection) (registry : Registry) :
    Nat :=
  2 * (connection.inbound.length + connection.queued registry + connection.line.frames.length) +
    3 * connection.duePings rules now + 8

/-- Takes steps until none is possible, at most as many as given. -/
def run (rules : StreamRules) (now : Nat) (looking : Bool) :
    Nat → Connection → Registry → Connection × Registry
  | 0, connection, registry => (connection, registry)
  | steps + 1, connection, registry =>
    match connection.step? rules now looking registry with
    | some (moved, registry) => run rules now looking steps moved registry
    | none => (connection, registry)

/-- Takes all steps that are possible now. -/
def rest (rules : StreamRules) (now : Nat) (looking : Bool) (connection : Connection)
    (registry : Registry) : Connection × Registry :=
  connection.run rules now looking (connection.stepBound rules now registry) registry

end Connection

end ServerMonitor
