/-
This file models what a server reports about itself: load and memory, fans,
graphics adapters, network interfaces and installed hardware.
-/

import ServerMonitor.Json.Schema

namespace ServerMonitor

open Json

structure Fan where
  name : String
  rpm : UInt32
deriving DecidableEq, Inhabited

def Fan.schema : Schema Fan where
  shape := .record <|
    .field "name" .text <|
    .field "rpm" .word32 <|
    .nil
  toParts fan := (fan.name, fan.rpm, ())
  ofParts := fun (name, rpm, ()) =>
    { name, rpm }
  ofParts_toParts _ := rfl

/-- A snapshot of the whole machine. -/
structure HostInfo where
  hostname : String
  version : String
  uptimeSeconds : UInt64
  cpuUsagePercent : Binary64
  cpuModel : String
  cpuCores : UInt64
  cpuThreads : UInt64
  cpuMhz : Binary64
  cpuTemperatureCelsius : Option Binary64
  ramUsagePercent : Binary64
  ramTotalBytes : UInt64
  ramUsedBytes : UInt64
  ramFreeBytes : UInt64
  fans : List Fan
  timestamp : Instant
deriving DecidableEq, Inhabited

def HostInfo.schema : Schema HostInfo where
  shape := .record <|
    .field "hostname" .text <|
    .field "version" .text <|
    .field "uptime_seconds" .word64 <|
    .field "cpu_usage_percent" .real <|
    .field "cpu_model" .text <|
    .field "cpu_cores" .word64 <|
    .field "cpu_threads" .word64 <|
    .field "cpu_mhz" .real <|
    .field "cpu_temp_celsius" (.optional .real) <|
    .field "ram_usage_percent" .real <|
    .field "ram_total_bytes" .word64 <|
    .field "ram_used_bytes" .word64 <|
    .field "ram_free_bytes" .word64 <|
    .field "fans" Fan.schema.list.shape <|
    .field "timestamp" .instant <|
    .nil
  toParts host := (host.hostname, host.version, host.uptimeSeconds, host.cpuUsagePercent,
    host.cpuModel, host.cpuCores, host.cpuThreads, host.cpuMhz, host.cpuTemperatureCelsius,
    host.ramUsagePercent, host.ramTotalBytes, host.ramUsedBytes, host.ramFreeBytes,
    Fan.schema.list.toParts host.fans, host.timestamp, ())
  ofParts := fun (hostname, version, uptimeSeconds, cpuUsagePercent, cpuModel, cpuCores, cpuThreads,
    cpuMhz, cpuTemperatureCelsius, ramUsagePercent, ramTotalBytes, ramUsedBytes, ramFreeBytes, fans,
    timestamp, ()) =>
    { hostname, version, uptimeSeconds, cpuUsagePercent, cpuModel, cpuCores, cpuThreads, cpuMhz,
      cpuTemperatureCelsius, ramUsagePercent, ramTotalBytes, ramUsedBytes, ramFreeBytes,
      fans := Fan.schema.list.ofParts fans, timestamp }
  ofParts_toParts host := by simp only [Schema.ofParts_toParts]

structure GraphicsAdapter where
  available : Bool
  index : UInt32
  vendor : String
  name : String
  driverVersion : String
  temperatureCelsius : Binary64
  processorPercent : Binary64
  memoryPercent : Binary64
  memoryTotalBytes : UInt64
  memoryUsedBytes : UInt64
  powerDrawWatts : Binary64
  timestamp : Instant
deriving DecidableEq, Inhabited

def GraphicsAdapter.schema : Schema GraphicsAdapter where
  shape := .record <|
    .field "available" .bool <|
    .field "index" .word32 <|
    .field "vendor" .text <|
    .field "name" .text <|
    .field "driver_version" .text <|
    .field "temperature_celsius" .real <|
    .field "utilization_gpu_percent" .real <|
    .field "utilization_memory_percent" .real <|
    .field "memory_total_bytes" .word64 <|
    .field "memory_used_bytes" .word64 <|
    .field "power_draw_watts" .real <|
    .field "timestamp" .instant <|
    .nil
  toParts adapter := (adapter.available, adapter.index, adapter.vendor, adapter.name,
    adapter.driverVersion, adapter.temperatureCelsius, adapter.processorPercent,
    adapter.memoryPercent, adapter.memoryTotalBytes, adapter.memoryUsedBytes,
    adapter.powerDrawWatts, adapter.timestamp, ())
  ofParts := fun (available, index, vendor, name, driverVersion, temperatureCelsius,
    processorPercent, memoryPercent, memoryTotalBytes, memoryUsedBytes, powerDrawWatts, timestamp,
    ()) =>
    { available, index, vendor, name, driverVersion, temperatureCelsius, processorPercent,
      memoryPercent, memoryTotalBytes, memoryUsedBytes, powerDrawWatts, timestamp }
  ofParts_toParts _ := rfl

structure NetworkInterface where
  name : String
  macAddress : String
  ipAddress : String
  speedMbps : UInt32
  state : String
  bytesReceived : UInt64
  bytesSent : UInt64
  packetsReceived : UInt64
  packetsSent : UInt64
  errorsReceived : UInt64
  errorsSent : UInt64
  timestamp : Instant
deriving DecidableEq, Inhabited

def NetworkInterface.schema : Schema NetworkInterface where
  shape := .record <|
    .field "name" .text <|
    .field "mac_address" .text <|
    .field "ip_address" .text <|
    .field "speed_mbps" .word32 <|
    .field "state" .text <|
    .field "bytes_received" .word64 <|
    .field "bytes_sent" .word64 <|
    .field "packets_received" .word64 <|
    .field "packets_sent" .word64 <|
    .field "errors_received" .word64 <|
    .field "errors_sent" .word64 <|
    .field "timestamp" .instant <|
    .nil
  toParts interface := (interface.name, interface.macAddress, interface.ipAddress,
    interface.speedMbps, interface.state, interface.bytesReceived, interface.bytesSent,
    interface.packetsReceived, interface.packetsSent, interface.errorsReceived,
    interface.errorsSent, interface.timestamp, ())
  ofParts := fun (name, macAddress, ipAddress, speedMbps, state, bytesReceived, bytesSent,
    packetsReceived, packetsSent, errorsReceived, errorsSent, timestamp, ()) =>
    { name, macAddress, ipAddress, speedMbps, state, bytesReceived, bytesSent, packetsReceived,
      packetsSent, errorsReceived, errorsSent, timestamp }
  ofParts_toParts _ := rfl

structure MemoryModule where
  locator : String
  sizeBytes : UInt64
  megatransfersPerSecond : UInt32
  manufacturer : String
deriving DecidableEq, Inhabited

def MemoryModule.schema : Schema MemoryModule where
  shape := .record <|
    .field "locator" .text <|
    .field "size_bytes" .word64 <|
    .field "speed_mts" .word32 <|
    .field "manufacturer" .text <|
    .nil
  toParts module := (module.locator, module.sizeBytes, module.megatransfersPerSecond,
    module.manufacturer, ())
  ofParts := fun (locator, sizeBytes, megatransfersPerSecond, manufacturer, ()) =>
    { locator, sizeBytes, megatransfersPerSecond, manufacturer }
  ofParts_toParts _ := rfl

structure Hardware where
  biosVendor : Option String
  biosVersion : Option String
  baseboardManufacturer : Option String
  baseboardProduct : Option String
  cpuSocket : Option String
  memoryModules : List MemoryModule
  timestamp : Instant
deriving DecidableEq, Inhabited

def Hardware.schema : Schema Hardware where
  shape := .record <|
    .field "bios_vendor" (.optional .text) <|
    .field "bios_version" (.optional .text) <|
    .field "baseboard_manufacturer" (.optional .text) <|
    .field "baseboard_product" (.optional .text) <|
    .field "cpu_socket" (.optional .text) <|
    .field "memory_devices" MemoryModule.schema.list.shape <|
    .field "timestamp" .instant <|
    .nil
  toParts hardware := (hardware.biosVendor, hardware.biosVersion, hardware.baseboardManufacturer,
    hardware.baseboardProduct, hardware.cpuSocket,
    MemoryModule.schema.list.toParts hardware.memoryModules, hardware.timestamp, ())
  ofParts := fun (biosVendor, biosVersion, baseboardManufacturer, baseboardProduct, cpuSocket,
    memoryModules, timestamp, ()) =>
    { biosVendor, biosVersion, baseboardManufacturer, baseboardProduct, cpuSocket,
      memoryModules := MemoryModule.schema.list.ofParts memoryModules, timestamp }
  ofParts_toParts hardware := by simp only [Schema.ofParts_toParts]

/-- The registration of the server. -/
structure License where
  /-- For instance "trial", "basic" or "lifetime". -/
  edition : String
  state : String
  expiration : Option Instant
  serverName : Option String
  guid : Option String
  timestamp : Instant
deriving DecidableEq, Inhabited

def License.schema : Schema License where
  shape := .record <|
    .field "type" .text <|
    .field "state" .text <|
    .field "expiration" (.optional .instant) <|
    .field "server_name" (.optional .text) <|
    .field "guid" (.optional .text) <|
    .field "timestamp" .instant <|
    .nil
  toParts license := (license.edition, license.state, license.expiration, license.serverName,
    license.guid, license.timestamp, ())
  ofParts := fun (edition, state, expiration, serverName, guid, timestamp, ()) =>
    { edition, state, expiration, serverName, guid, timestamp }
  ofParts_toParts _ := rfl

end ServerMonitor
