/-
This file models the payloads that travel on the bus and the events that carry
them to clients. A payload is written as its bare model; an event names the
kind of its payload by the topic of the kind.
-/

import ServerMonitor.Payload.Kind

namespace ServerMonitor

open Json

structure Payload where
  kind : Kind
  value : kind.Model

namespace Payload

instance : Inhabited Payload := ⟨⟨.disks, []⟩⟩

def write (payload : Payload) : Value := payload.kind.schema.write payload.value

/-- A payload as text; its kind does not show. -/
def toText (payload : Payload) : String := payload.write.render

/-- The payload of a kind that a text holds. -/
def ofText (kind : Kind) (text : String) : Except Fault Payload :=
  (kind.schema.ofText text).map (⟨kind, ·⟩)

/-- The value of a payload, if it is of the given kind. -/
def valueOf? (payload : Payload) (kind : Kind) : Option kind.Model :=
  if same : payload.kind = kind then some (same ▸ payload.value) else none

end Payload

/-- What a client is told: a payload and when it was announced. -/
structure Event where
  payload : Payload
  timestamp : Instant

namespace Event

def name (event : Event) : String := event.payload.kind.topic

def write (event : Event) : Value :=
  .ofMembers [("event", .ofText event.name), ("timestamp", .ofText event.timestamp.written),
    ("data", event.payload.write)]

def toText (event : Event) : String := event.write.render

end Event

end ServerMonitor
