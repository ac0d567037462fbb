/-
This file models the bodies of requests and answers that are no models of the
server itself.
-/

import ServerMonitor.Model.CollectorStatus

namespace ServerMonitor

/-- The version of the program. -/
def version : String := "0.1.0"

namespace Api

open Json

structure BusHealth where
  topics : UInt64
  capacity : UInt64
deriving DecidableEq, Inhabited

def BusHealth.schema : Schema BusHealth where
  shape := .record <|
    .field "topics" .word64 <|
    .field "buffer_size" .word64 <|
    .nil
  toParts health := (health.topics, health.capacity, ())
  ofParts := fun (topics, capacity, ()) =>
    { topics, capacity }
  ofParts_toParts _ := rfl

/-- The state of the live connections. -/
structure StreamHealth where
  clients : UInt64
  delivered : UInt64
  evicted : UInt64
  accepting : Bool
deriving DecidableEq, Inhabited

def StreamHealth.schema : Schema StreamHealth where
  shape := .record <|
    .field "clients" .word64 <|
    .field "events_delivered" .word64 <|
    .field "clients_evicted" .word64 <|
    .field "accepting" .bool <|
    .nil
  toParts health := (health.clients, health.delivered, health.evicted, health.accepting, ())
  ofParts := fun (clients, delivered, evicted, accepting, ()) =>
    { clients, delivered, evicted, accepting }
  ofParts_toParts _ := rfl

/-- That the agent is alive, with a summary of its parts. -/
structure Health where
  status : String
  version : String
  timestamp : String
  uptimeSeconds : Int64
  /-- The cache entries that hold a value. -/
  cached : List String
  bus : BusHealth
  stream : StreamHealth
deriving DecidableEq, Inhabited

def Health.schema : Schema Health where
  shape := .record <|
    .field "status" .text <|
    .field "version" .text <|
    .field "timestamp" .text <|
    .field "uptime_seconds" .signed64 <|
    .field "cached" (.list .text) <|
    .field "bus" BusHealth.schema.shape <|
    .field "websocket" StreamHealth.schema.shape <|
    .nil
  toParts health := (health.status, health.version, health.timestamp, health.uptimeSeconds,
    health.cached, BusHealth.schema.toParts health.bus, StreamHealth.schema.toParts health.stream,
    ())
  ofParts := fun (status, version, timestamp, uptimeSeconds, cached, bus, stream, ()) =>
    { status, version, timestamp, uptimeSeconds, cached, bus := BusHealth.schema.ofParts bus,
      stream := StreamHealth.schema.ofParts stream }
  ofParts_toParts health := by simp only [Schema.ofParts_toParts]

/-- The request to change the interval of a collector. -/
structure IntervalRequest where
  interval : UInt64
deriving DecidableEq, Inhabited

def IntervalRequest.schema : Schema IntervalRequest where
  shape := .record <|
    .field "interval" .word64 <|
    .nil
  toParts request := (request.interval, ())
  ofParts := fun (interval, ()) =>
    { interval }
  ofParts_toParts _ := rfl

/-- What became of a collector after a request to control it. -/
structure ControlReport where
  success : Bool
  message : String
  collector : CollectorStatus
deriving DecidableEq, Inhabited

def ControlReport.schema : Schema ControlReport where
  shape := .record <|
    .field "success" .bool <|
    .field "message" .text <|
    .field "collector" CollectorStatus.schema.shape <|
    .nil
  toParts report := (report.success, report.message,
    CollectorStatus.schema.toParts report.collector, ())
  ofParts := fun (success, message, collector, ()) =>
    { success, message, collector := CollectorStatus.schema.ofParts collector }
  ofParts_toParts report := by simp only [Schema.ofParts_toParts]

end Api

end ServerMonitor
