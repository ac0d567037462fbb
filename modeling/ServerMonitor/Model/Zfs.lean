/-
This file models ZFS storage: pools, datasets, snapshots and the adaptive
replacement cache.
-/

import ServerMonitor.Json.Schema

namespace ServerMonitor

open Json

structure ZfsPool where
  name : String
  guid : Option String
  /-- For instance "ONLINE" or "DEGRADED". -/
  health : String
  state : String
  sizeBytes : UInt64
  allocatedBytes : UInt64
  freeBytes : UInt64
  fragmentationPercent : Binary64
  capacityPercent : Binary64
  deduplicationRatio : Binary64
  scanStatus : Option String
  scanErrors : UInt64
  timestamp : Instant
deriving DecidableEq, Inhabited

def ZfsPool.schema : Schema ZfsPool where
  shape := .record <|
    .field "name" .text <|
    .field "guid" (.optional .text) <|
    .field "health" .text <|
    .field "state" .text <|
    .field "size_bytes" .word64 <|
    .field "allocated_bytes" .word64 <|
    .field "free_bytes" .word64 <|
    .field "fragmentation_percent" .real <|
    .field "capacity_percent" .real <|
    .field "dedup_ratio" .real <|
    .field "scan_status" (.optional .text) <|
    .field "scan_errors" .word64 <|
    .field "timestamp" .instant <|
    .nil
  toParts pool := (pool.name, pool.guid, pool.health, pool.state, pool.sizeBytes,
    pool.allocatedBytes, pool.freeBytes, pool.fragmentationPercent, pool.capacityPercent,
    pool.deduplicationRatio, pool.scanStatus, pool.scanErrors, pool.timestamp, ())
  ofParts := fun (name, guid, health, state, sizeBytes, allocatedBytes, freeBytes,
    fragmentationPercent, capacityPercent, deduplicationRatio, scanStatus, scanErrors, timestamp,
    ()) =>
    { name, guid, health, state, sizeBytes, allocatedBytes, freeBytes, fragmentationPercent,
      capacityPercent, deduplicationRatio, scanStatus, scanErrors, timestamp }
  ofParts_toParts _ := rfl

structure ZfsDataset where
  name : String
  pool : String
  datasetType : String
  usedBytes : UInt64
  availableBytes : UInt64
  referencedBytes : UInt64
  compressionRatio : Binary64
  mountPoint : Option String
  timestamp : Instant
deriving DecidableEq, Inhabited

def ZfsDataset.schema : Schema ZfsDataset where
  shape := .record <|
    .field "name" .text <|
    .field "pool" .text <|
    .field "type" .text <|
    .field "used_bytes" .word64 <|
    .field "available_bytes" .word64 <|
    .field "referenced_bytes" .word64 <|
    .field "compress_ratio" .real <|
    .field "mountpoint" (.optional .text) <|
    .field "timestamp" .instant <|
    .nil
  toParts dataset := (dataset.name, dataset.pool, dataset.datasetType, dataset.usedBytes,
    dataset.availableBytes, dataset.referencedBytes, dataset.compressionRatio, dataset.mountPoint,
    dataset.timestamp, ())
  ofParts := fun (name, pool, datasetType, usedBytes, availableBytes, referencedBytes,
    compressionRatio, mountPoint, timestamp, ()) =>
    { name, pool, datasetType, usedBytes, availableBytes, referencedBytes, compressionRatio,
      mountPoint, timestamp }
  ofParts_toParts _ := rfl

structure ZfsSnapshot where
  name : String
  dataset : String
  usedBytes : UInt64
  referencedBytes : UInt64
  creation : Option Instant
  timestamp : Instant
deriving DecidableEq, Inhabited

def ZfsSnapshot.schema : Schema ZfsSnapshot where
  shape := .record <|
    .field "name" .text <|
    .field "dataset" .text <|
    .field "used_bytes" .word64 <|
    .field "referenced_bytes" .word64 <|
    .field "creation" (.optional .instant) <|
    .field "timestamp" .instant <|
    .nil
  toParts snapshot := (snapshot.name, snapshot.dataset, snapshot.usedBytes,
    snapshot.referencedBytes, snapshot.creation, snapshot.timestamp, ())
  ofParts := fun (name, dataset, usedBytes, referencedBytes, creation, timestamp, ()) =>
    { name, dataset, usedBytes, referencedBytes, creation, timestamp }
  ofParts_toParts _ := rfl

structure ZfsCacheStatistics where
  sizeBytes : UInt64
  targetSizeBytes : UInt64
  minimumSizeBytes : UInt64
  maximumSizeBytes : UInt64
  hits : UInt64
  misses : UInt64
  hitRatioPercent : Binary64
  timestamp : Instant
deriving DecidableEq, Inhabited

def ZfsCacheStatistics.schema : Schema ZfsCacheStatistics where
  shape := .record <|
    .field "size_bytes" .word64 <|
    .field "target_size_bytes" .word64 <|
    .field "min_size_bytes" .word64 <|
    .field "max_size_bytes" .word64 <|
    .field "hits" .word64 <|
    .field "misses" .word64 <|
    .field "hit_ratio_percent" .real <|
    .field "timestamp" .instant <|
    .nil
  toParts statistics := (statistics.sizeBytes, statistics.targetSizeBytes,
    statistics.minimumSizeBytes, statistics.maximumSizeBytes, statistics.hits, statistics.misses,
    statistics.hitRatioPercent, statistics.timestamp, ())
  ofParts := fun (sizeBytes, targetSizeBytes, minimumSizeBytes, maximumSizeBytes, hits, misses,
    hitRatioPercent, timestamp, ()) =>
    { sizeBytes, targetSizeBytes, minimumSizeBytes, maximumSizeBytes, hits, misses, hitRatioPercent,
      timestamp }
  ofParts_toParts _ := rfl

end ServerMonitor
