/-
This file models uninterruptible power supplies, as their own daemon and as
network tools report them.
-/

import ServerMonitor.Json.Schema

namespace ServerMonitor

open Json

structure PowerSupply where
  connected : Bool
  /-- For instance "ONLINE" or "ONBATT". -/
  status : String
  loadPercent : Binary64
  batteryChargePercent : Binary64
  runtimeLeftSeconds : UInt64
  powerWatts : Binary64
  nominalPowerWatts : Binary64
  model : String
  timestamp : Instant
deriving DecidableEq, Inhabited

def PowerSupply.schema : Schema PowerSupply where
  shape := .record <|
    .field "connected" .bool <|
    .field "status" .text <|
    .field "load_percent" .real <|
    .field "battery_charge_percent" .real <|
    .field "runtime_left_seconds" .word64 <|
    .field "power_watts" .real <|
    .field "nominal_power_watts" .real <|
    .field "model" .text <|
    .field "timestamp" .instant <|
    .nil
  toParts supply := (supply.connected, supply.status, supply.loadPercent,
    supply.batteryChargePercent, supply.runtimeLeftSeconds, supply.powerWatts,
    supply.nominalPowerWatts, supply.model, supply.timestamp, ())
  ofParts := fun (connected, status, loadPercent, batteryChargePercent, runtimeLeftSeconds,
    powerWatts, nominalPowerWatts, model, timestamp, ()) =>
    { connected, status, loadPercent, batteryChargePercent, runtimeLeftSeconds, powerWatts,
      nominalPowerWatts, model, timestamp }
  ofParts_toParts _ := rfl

structure NetworkPowerSupply where
  installed : Bool
  running : Bool
  connected : Bool
  deviceName : String
  host : String
  driver : String
  manufacturer : String
  model : String
  /-- Status flags, for instance "OL" or "OB LB". -/
  status : String
  statusText : String
  alarms : List String
  batteryChargePercent : Binary64
  batteryRuntimeSeconds : UInt64
  loadPercent : Binary64
  timestamp : Instant
deriving DecidableEq, Inhabited

def NetworkPowerSupply.schema : Schema NetworkPowerSupply where
  shape := .record <|
    .field "installed" .bool <|
    .field "running" .bool <|
    .field "connected" .bool <|
    .field "device_name" .text <|
    .field "host" .text <|
    .field "driver" .text <|
    .field "manufacturer" .text <|
    .field "model" .text <|
    .field "status" .text <|
    .field "status_text" .text <|
    .field "alarms" (.list .text) <|
    .field "battery_charge_percent" .real <|
    .field "battery_runtime_seconds" .word64 <|
    .field "load_percent" .real <|
    .field "timestamp" .instant <|
    .nil
  toParts supply := (supply.installed, supply.running, supply.connected, supply.deviceName,
    supply.host, supply.driver, supply.manufacturer, supply.model, supply.status, supply.statusText,
    supply.alarms, supply.batteryChargePercent, supply.batteryRuntimeSeconds, supply.loadPercent,
    supply.timestamp, ())
  ofParts := fun (installed, running, connected, deviceName, host, driver, manufacturer, model,
    status, statusText, alarms, batteryChargePercent, batteryRuntimeSeconds, loadPercent, timestamp,
    ()) =>
    { installed, running, connected, deviceName, host, driver, manufacturer, model, status,
      statusText, alarms, batteryChargePercent, batteryRuntimeSeconds, loadPercent, timestamp }
  ofParts_toParts _ := rfl

end ServerMonitor
