/-
This file models what is reported about collectors: the status of each, the
list of all, and the event that announces a change.
-/

import ServerMonitor.Json.Schema

namespace ServerMonitor

open Json

structure CollectorStatus where
  name : String
  enabled : Bool
  /-- Seconds between passes, zero while disabled. -/
  interval : UInt64
  state : RunState
  /-- When the latest completed pass ended. -/
  lastRun : Option Instant
  errors : UInt64
  /-- A required collector cannot be disabled. -/
  required : Bool
deriving DecidableEq, Inhabited

def CollectorStatus.schema : Schema CollectorStatus where
  shape := .record <|
    .field "name" .text <|
    .field "enabled" .bool <|
    .field "interval_seconds" .word64 <|
    .field "status" .runState <|
    .fieldUnlessNull "last_run" (.optional .instant) <|
    .field "error_count" .word64 <|
    .field "required" .bool <|
    .nil
  toParts status := (status.name, status.enabled, status.interval, status.state, status.lastRun,
    status.errors, status.required, ())
  ofParts := fun (name, enabled, interval, state, lastRun, errors, required, ()) =>
    { name, enabled, interval, state, lastRun, errors, required }
  ofParts_toParts _ := rfl

/-- All collectors with counts of the enabled and the disabled ones. -/
structure CollectorsStatus where
  collectors : List CollectorStatus
  total : UInt64
  enabled : UInt64
  disabled : UInt64
  timestamp : Instant
deriving DecidableEq, Inhabited

def CollectorsStatus.schema : Schema CollectorsStatus where
  shape := .record <|
    .field "collectors" CollectorStatus.schema.list.shape <|
    .field "total" .word64 <|
    .field "enabled_count" .word64 <|
    .field "disabled_count" .word64 <|
    .field "timestamp" .instant <|
    .nil
  toParts list := (CollectorStatus.schema.list.toParts list.collectors, list.total, list.enabled,
    list.disabled, list.timestamp, ())
  ofParts := fun (collectors, total, enabled, disabled, timestamp, ()) =>
    { collectors := CollectorStatus.schema.list.ofParts collectors, total, enabled, disabled,
      timestamp }
  ofParts_toParts list := by simp only [Schema.ofParts_toParts]

/-- Published when a collector is enabled or disabled. -/
structure CollectorStateEvent where
  event : String
  collector : String
  enabled : Bool
  state : RunState
  interval : UInt64
  timestamp : Instant
deriving DecidableEq, Inhabited

def CollectorStateEvent.schema : Schema CollectorStateEvent where
  shape := .record <|
    .field "event" .text <|
    .field "collector" .text <|
    .field "enabled" .bool <|
    .field "status" .runState <|
    .field "interval" .word64 <|
    .field "timestamp" .instant <|
    .nil
  toParts event := (event.event, event.collector, event.enabled, event.state, event.interval,
    event.timestamp, ())
  ofParts := fun (event, collector, enabled, state, interval, timestamp, ()) =>
    { event, collector, enabled, state, interval, timestamp }
  ofParts_toParts _ := rfl

end ServerMonitor
