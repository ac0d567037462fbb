/-
This file lists the kinds of payloads that travel on the bus. Each kind has a
name, a topic of its own and a model; all kinds but one feed a cache entry.
-/

import ServerMonitor.Model.CollectorStatus
import ServerMonitor.Model.Host
import ServerMonitor.Model.Notifications
import ServerMonitor.Model.Power
import ServerMonitor.Model.Storage
import ServerMonitor.Model.Workload
import ServerMonitor.Model.Zfs

namespace ServerMonitor

open Json

inductive Kind
  | host
  | array
  | disks
  | shares
  | containers
  | machines
  | power
  | networkPower
  | graphics
  | network
  | hardware
  | license
  | notifications
  | unassigned
  | zfsPools
  | zfsDatasets
  | zfsSnapshots
  | zfsCache
  | collectorState
deriving DecidableEq, Inhabited

namespace Kind

/-- All kinds in their fixed order. -/
def all : List Kind := [
  host, array, disks, shares, containers, machines, power, networkPower, graphics, network,
  hardware, license, notifications, unassigned, zfsPools, zfsDatasets, zfsSnapshots, zfsCache,
  collectorState]

def name : Kind → String
  | host => "System"
  | array => "ArrayStatus"
  | disks => "Disks"
  | shares => "Shares"
  | containers => "Containers"
  | machines => "Vms"
  | power => "Ups"
  | networkPower => "Nut"
  | graphics => "Gpu"
  | network => "Network"
  | hardware => "Hardware"
  | license => "Registration"
  | notifications => "Notifications"
  | unassigned => "Unassigned"
  | zfsPools => "ZfsPools"
  | zfsDatasets => "ZfsDatasets"
  | zfsSnapshots => "ZfsSnapshots"
  | zfsCache => "ZfsArcStats"
  | collectorState => "CollectorState"

def ofName? (name : String) : Option Kind := all.find? fun kind => kind.name = name

/-- The topic on which payloads of a kind are announced, which also names their events. -/
def topic : Kind → String
  | host => "system_update"
  | array => "array_status_update"
  | disks => "disk_list_update"
  | shares => "share_list_update"
  | containers => "container_list_update"
  | machines => "vm_list_update"
  | power => "ups_status_update"
  | networkPower => "nut_status_update"
  | graphics => "gpu_metrics_update"
  | network => "network_list_update"
  | hardware => "hardware_update"
  | license => "registration_update"
  | notifications => "notifications_update"
  | unassigned => "unassigned_devices_update"
  | zfsPools => "zfs_pools_update"
  | zfsDatasets => "zfs_datasets_update"
  | zfsSnapshots => "zfs_snapshots_update"
  | zfsCache => "zfs_arc_stats_update"
  | collectorState => "collector_state_change"

/-- The name of the cache entry that a kind feeds. -/
def entry? : Kind → Option String
  | host => some "system"
  | array => some "array"
  | disks => some "disks"
  | shares => some "shares"
  | containers => some "containers"
  | machines => some "vms"
  | power => some "ups"
  | networkPower => some "nut"
  | graphics => some "gpu"
  | network => some "network"
  | hardware => some "hardware"
  | license => some "registration"
  | notifications => some "notifications"
  | unassigned => some "unassigned"
  | zfsPools => some "zfs_pools"
  | zfsDatasets => some "zfs_datasets"
  | zfsSnapshots => some "zfs_snapshots"
  | zfsCache => some "zfs_arc_stats"
  | collectorState => none

/-- The kinds that feed a cache entry. -/
def cached : List Kind := all.filter fun kind => kind.entry?.isSome

/-- The kind that feeds the named cache entry. -/
def ofEntry? (entry : String) : Option Kind := all.find? fun kind => kind.entry? = some entry

/-- The type of the payloads of a kind. -/
@[reducible]
def Model : Kind → Type
  | host => HostInfo
  | array => ArrayStatus
  | disks => List Disk
  | shares => List Share
  | containers => List Container
  | machines => List VirtualMachine
  | power => PowerSupply
  | networkPower => NetworkPowerSupply
  | graphics => List GraphicsAdapter
  | network => List NetworkInterface
  | hardware => Hardware
  | license => License
  | notifications => Notifications
  | unassigned => UnassignedDevices
  | zfsPools => List ZfsPool
  | zfsDatasets => List ZfsDataset
  | zfsSnapshots => List ZfsSnapshot
  | zfsCache => ZfsCacheStatistics
  | collectorState => CollectorStateEvent

def schema : (kind : Kind) → Schema kind.Model
  | host => HostInfo.schema
  | array => ArrayStatus.schema
  | disks => Disk.schema.list
  | shares => Share.schema.list
  | containers => Container.schema.list
  | machines => VirtualMachine.schema.list
  | power => PowerSupply.schema
  | networkPower => NetworkPowerSupply.schema
  | graphics => GraphicsAdapter.schema.list
  | network => NetworkInterface.schema.list
  | hardware => Hardware.schema
  | license => License.schema
  | notifications => Notifications.schema
  | unassigned => UnassignedDevices.schema
  | zfsPools => ZfsPool.schema.list
  | zfsDatasets => ZfsDataset.schema.list
  | zfsSnapshots => ZfsSnapshot.schema.list
  | zfsCache => ZfsCacheStatistics.schema
  | collectorState => CollectorStateEvent.schema

end Kind

end ServerMonitor
