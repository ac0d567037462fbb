/-
This file models storage: the disk array and its parity checks, disks, shares
and devices outside the array.
-/

import ServerMonitor.Json.Schema

namespace ServerMonitor

open Json

structure ArrayStatus where
  state : String
  usedPercent : Binary64
  freeBytes : UInt64
  totalBytes : UInt64
  parityValid : Bool
  parityCheckStatus : String
  parityCheckProgress : Binary64
  disks : UInt32
  dataDisks : UInt32
  parityDisks : UInt32
  timestamp : Instant
deriving DecidableEq, Inhabited

def ArrayStatus.schema : Schema ArrayStatus where
  shape := .record <|
    .field "state" .text <|
    .field "used_percent" .real <|
    .field "free_bytes" .word64 <|
    .field "total_bytes" .word64 <|
    .field "parity_valid" .bool <|
    .field "parity_check_status" .text <|
    .field "parity_check_progress" .real <|
    .field "num_disks" .word32 <|
    .field "num_data_disks" .word32 <|
    .field "num_parity_disks" .word32 <|
    .field "timestamp" .instant <|
    .nil
  toParts array := (array.state, array.usedPercent, array.freeBytes, array.totalBytes,
    array.parityValid, array.parityCheckStatus, array.parityCheckProgress, array.disks,
    array.dataDisks, array.parityDisks, array.timestamp, ())
  ofParts := fun (state, usedPercent, freeBytes, totalBytes, parityValid, parityCheckStatus,
    parityCheckProgress, disks, dataDisks, parityDisks, timestamp, ()) =>
    { state, usedPercent, freeBytes, totalBytes, parityValid, parityCheckStatus,
      parityCheckProgress, disks, dataDisks, parityDisks, timestamp }
  ofParts_toParts _ := rfl

structure Disk where
  id : String
  device : String
  name : String
  status : String
  sizeBytes : UInt64
  usedBytes : UInt64
  freeBytes : UInt64
  temperatureCelsius : Binary64
  smartStatus : String
  smartErrors : UInt32
  filesystem : String
  timestamp : Instant
deriving DecidableEq, Inhabited

def Disk.schema : Schema Disk where
  shape := .record <|
    .field "id" .text <|
    .field "device" .text <|
    .field "name" .text <|
    .field "status" .text <|
    .field "size_bytes" .word64 <|
    .field "used_bytes" .word64 <|
    .field "free_bytes" .word64 <|
    .field "temperature_celsius" .real <|
    .field "smart_status" .text <|
    .field "smart_errors" .word32 <|
    .field "filesystem" .text <|
    .field "timestamp" .instant <|
    .nil
  toParts disk := (disk.id, disk.device, disk.name, disk.status, disk.sizeBytes, disk.usedBytes,
    disk.freeBytes, disk.temperatureCelsius, disk.smartStatus, disk.smartErrors, disk.filesystem,
    disk.timestamp, ())
  ofParts := fun (id, device, name, status, sizeBytes, usedBytes, freeBytes, temperatureCelsius,
    smartStatus, smartErrors, filesystem, timestamp, ()) =>
    { id, device, name, status, sizeBytes, usedBytes, freeBytes, temperatureCelsius, smartStatus,
      smartErrors, filesystem, timestamp }
  ofParts_toParts _ := rfl

structure Share where
  name : String
  path : String
  usedBytes : UInt64
  freeBytes : UInt64
  totalBytes : UInt64
  usagePercent : Binary64
  timestamp : Instant
deriving DecidableEq, Inhabited

def Share.schema : Schema Share where
  shape := .record <|
    .field "name" .text <|
    .field "path" .text <|
    .field "used_bytes" .word64 <|
    .field "free_bytes" .word64 <|
    .field "total_bytes" .word64 <|
    .field "usage_percent" .real <|
    .field "timestamp" .instant <|
    .nil
  toParts share := (share.name, share.path, share.usedBytes, share.freeBytes, share.totalBytes,
    share.usagePercent, share.timestamp, ())
  ofParts := fun (name, path, usedBytes, freeBytes, totalBytes, usagePercent, timestamp, ()) =>
    { name, path, usedBytes, freeBytes, totalBytes, usagePercent, timestamp }
  ofParts_toParts _ := rfl

structure Partition where
  number : UInt32
  label : Option String
  filesystem : String
  mountPoint : Option String
  sizeBytes : UInt64
  usedBytes : UInt64
  freeBytes : UInt64
deriving DecidableEq, Inhabited

def Partition.schema : Schema Partition where
  shape := .record <|
    .field "partition_number" .word32 <|
    .field "label" (.optional .text) <|
    .field "filesystem" .text <|
    .field "mount_point" (.optional .text) <|
    .field "size_bytes" .word64 <|
    .field "used_bytes" .word64 <|
    .field "free_bytes" .word64 <|
    .nil
  toParts partition := (partition.number, partition.label, partition.filesystem,
    partition.mountPoint, partition.sizeBytes, partition.usedBytes, partition.freeBytes, ())
  ofParts := fun (number, label, filesystem, mountPoint, sizeBytes, usedBytes, freeBytes, ()) =>
    { number, label, filesystem, mountPoint, sizeBytes, usedBytes, freeBytes }
  ofParts_toParts _ := rfl

/-- A device outside the array. -/
structure UnassignedDevice where
  /-- The device name, for instance "sdc". -/
  name : String
  serialNumber : String
  model : String
  identification : String
  partitions : List Partition
  /-- For instance "mounted" or "error". -/
  status : String
  spinState : String
  temperatureCelsius : Option Binary64
  autoMount : Bool
deriving DecidableEq, Inhabited

def UnassignedDevice.schema : Schema UnassignedDevice where
  shape := .record <|
    .field "device" .text <|
    .field "serial_number" .text <|
    .field "model" .text <|
    .field "identification" .text <|
    .field "partitions" Partition.schema.list.shape <|
    .field "status" .text <|
    .field "spin_state" .text <|
    .field "temperature_celsius" (.optional .real) <|
    .field "auto_mount" .bool <|
    .nil
  toParts device := (device.name, device.serialNumber, device.model, device.identification,
    Partition.schema.list.toParts device.partitions, device.status, device.spinState,
    device.temperatureCelsius, device.autoMount, ())
  ofParts := fun (name, serialNumber, model, identification, partitions, status, spinState,
    temperatureCelsius, autoMount, ()) =>
    { name, serialNumber, model, identification,
      partitions := Partition.schema.list.ofParts partitions, status, spinState, temperatureCelsius,
      autoMount }
  ofParts_toParts device := by simp only [Schema.ofParts_toParts]

structure UnassignedDevices where
  devices : List UnassignedDevice
  timestamp : Instant
deriving DecidableEq, Inhabited

def UnassignedDevices.schema : Schema UnassignedDevices where
  shape := .record <|
    .field "devices" UnassignedDevice.schema.list.shape <|
    .field "timestamp" .instant <|
    .nil
  toParts list := (UnassignedDevice.schema.list.toParts list.devices, list.timestamp, ())
  ofParts := fun (devices, timestamp, ()) =>
    { devices := UnassignedDevice.schema.list.ofParts devices, timestamp }
  ofParts_toParts list := by simp only [Schema.ofParts_toParts]

/-- One parity check of the history. -/
structure ParityCheck where
  /-- For instance "Parity-Check" or "Clear". -/
  action : String
  date : Instant
  durationSeconds : UInt64
  speedMbps : Binary64
  /-- "OK", "Canceled" or a count of errors. -/
  status : String
  errors : UInt64
  sizeBytes : UInt64
deriving DecidableEq, Inhabited

def ParityCheck.schema : Schema ParityCheck where
  shape := .record <|
    .field "action" .text <|
    .field "date" .instant <|
    .field "duration_seconds" .word64 <|
    .field "speed_mbps" .real <|
    .field "status" .text <|
    .field "errors" .word64 <|
    .field "size_bytes" .word64 <|
    .nil
  toParts check := (check.action, check.date, check.durationSeconds, check.speedMbps, check.status,
    check.errors, check.sizeBytes, ())
  ofParts := fun (action, date, durationSeconds, speedMbps, status, errors, sizeBytes, ()) =>
    { action, date, durationSeconds, speedMbps, status, errors, sizeBytes }
  ofParts_toParts _ := rfl

/-- The history of parity checks; the default one stands for no history. -/
structure ParityHistory where
  records : List ParityCheck
  timestamp : Instant
deriving DecidableEq, Inhabited

def ParityHistory.schema : Schema ParityHistory where
  shape := .record <|
    .field "records" ParityCheck.schema.list.shape <|
    .field "timestamp" .instant <|
    .nil
  toParts history := (ParityCheck.schema.list.toParts history.records, history.timestamp, ())
  ofParts := fun (records, timestamp, ()) =>
    { records := ParityCheck.schema.list.ofParts records, timestamp }
  ofParts_toParts history := by simp only [Schema.ofParts_toParts]

end ServerMonitor
