/-
This file models what a server runs: containers and virtual machines.
-/

import ServerMonitor.Json.Schema

namespace ServerMonitor

open Json

structure PortMapping where
  privatePort : UInt16
  publicPort : Option UInt16
  protocol : String
deriving DecidableEq, Inhabited

def PortMapping.schema : Schema PortMapping where
  shape := .record <|
    .field "private_port" .word16 <|
    .field "public_port" (.optional .word16) <|
    .field "type" .text <|
    .nil
  toParts mapping := (mapping.privatePort, mapping.publicPort, mapping.protocol, ())
  ofParts := fun (privatePort, publicPort, protocol, ()) =>
    { privatePort, publicPort, protocol }
  ofParts_toParts _ := rfl

structure Container where
  id : String
  name : String
  image : String
  /-- For instance "running" or "exited". -/
  state : String
  status : String
  networkMode : String
  ipAddress : Option String
  cpuPercent : Binary64
  memoryUsageBytes : UInt64
  memoryLimitBytes : UInt64
  ports : List PortMapping
  restartPolicy : String
  timestamp : Instant
deriving DecidableEq, Inhabited

def Container.schema : Schema Container where
  shape := .record <|
    .field "id" .text <|
    .field "name" .text <|
    .field "image" .text <|
    .field "state" .text <|
    .field "status" .text <|
    .field "network_mode" .text <|
    .field "ip_address" (.optional .text) <|
    .field "cpu_percent" .real <|
    .field "memory_usage_bytes" .word64 <|
    .field "memory_limit_bytes" .word64 <|
    .field "ports" PortMapping.schema.list.shape <|
    .field "restart_policy" .text <|
    .field "timestamp" .instant <|
    .nil
  toParts container := (container.id, container.name, container.image, container.state,
    container.status, container.networkMode, container.ipAddress, container.cpuPercent,
    container.memoryUsageBytes, container.memoryLimitBytes,
    PortMapping.schema.list.toParts container.ports, container.restartPolicy, container.timestamp,
    ())
  ofParts := fun (id, name, image, state, status, networkMode, ipAddress, cpuPercent,
    memoryUsageBytes, memoryLimitBytes, ports, restartPolicy, timestamp, ()) =>
    { id, name, image, state, status, networkMode, ipAddress, cpuPercent, memoryUsageBytes,
      memoryLimitBytes, ports := PortMapping.schema.list.ofParts ports, restartPolicy, timestamp }
  ofParts_toParts container := by simp only [Schema.ofParts_toParts]

structure VirtualMachine where
  id : String
  name : String
  state : String
  cpuCount : UInt32
  guestCpuPercent : Binary64
  hostCpuPercent : Binary64
  memoryAllocatedBytes : UInt64
  memoryUsedBytes : UInt64
  startsAutomatically : Bool
  timestamp : Instant
deriving DecidableEq, Inhabited

def VirtualMachine.schema : Schema VirtualMachine where
  shape := .record <|
    .field "id" .text <|
    .field "name" .text <|
    .field "state" .text <|
    .field "cpu_count" .word32 <|
    .field "guest_cpu_percent" .real <|
    .field "host_cpu_percent" .real <|
    .field "memory_allocated_bytes" .word64 <|
    .field "memory_used_bytes" .word64 <|
    .field "autostart" .bool <|
    .field "timestamp" .instant <|
    .nil
  toParts machine := (machine.id, machine.name, machine.state, machine.cpuCount,
    machine.guestCpuPercent, machine.hostCpuPercent, machine.memoryAllocatedBytes,
    machine.memoryUsedBytes, machine.startsAutomatically, machine.timestamp, ())
  ofParts := fun (id, name, state, cpuCount, guestCpuPercent, hostCpuPercent, memoryAllocatedBytes,
    memoryUsedBytes, startsAutomatically, timestamp, ()) =>
    { id, name, state, cpuCount, guestCpuPercent, hostCpuPercent, memoryAllocatedBytes,
      memoryUsedBytes, startsAutomatically, timestamp }
  ofParts_toParts _ := rfl

end ServerMonitor
