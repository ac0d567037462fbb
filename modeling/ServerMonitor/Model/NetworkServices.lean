/-
This file models the file sharing, remote access and discovery services of a
server, and the summary that counts them.
-/

import ServerMonitor.Json.Schema

namespace ServerMonitor

open Json

structure NetworkService where
  name : String
  enabled : Bool
  running : Bool
  port : Option UInt16
deriving DecidableEq, Inhabited

def NetworkService.schema : Schema NetworkService where
  shape := .record <|
    .field "name" .text <|
    .field "enabled" .bool <|
    .field "running" .bool <|
    .field "port" (.optional .word16) <|
    .nil
  toParts service := (service.name, service.enabled, service.running, service.port, ())
  ofParts := fun (name, enabled, running, port, ()) =>
    { name, enabled, running, port }
  ofParts_toParts _ := rfl

/-- The state of all services with the counts derived from it. -/
structure NetworkServices where
  services : List NetworkService
  total : UInt64
  enabled : UInt64
  running : UInt64
  timestamp : Instant
deriving DecidableEq, Inhabited

def NetworkServices.schema : Schema NetworkServices where
  shape := .record <|
    .field "services" NetworkService.schema.list.shape <|
    .field "total_services" .word64 <|
    .field "enabled_services" .word64 <|
    .field "running_services" .word64 <|
    .field "timestamp" .instant <|
    .nil
  toParts summary := (NetworkService.schema.list.toParts summary.services, summary.total,
    summary.enabled, summary.running, summary.timestamp, ())
  ofParts := fun (services, total, enabled, running, timestamp, ()) =>
    { services := NetworkService.schema.list.ofParts services, total, enabled, running, timestamp }
  ofParts_toParts summary := by simp only [Schema.ofParts_toParts]

/-- The summary of a list of services. -/
def NetworkServices.ofServices (services : List NetworkService) (timestamp : Instant) :
    NetworkServices where
  services
  total := UInt64.ofNat services.length
  enabled := UInt64.ofNat (services.countP (·.enabled))
  running := UInt64.ofNat (services.countP (·.running))
  timestamp

end ServerMonitor
