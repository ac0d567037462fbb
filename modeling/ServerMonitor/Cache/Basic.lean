/-
This file models the cache: the latest payload of every kind that the bus
feeds, the state of the network services, which is derived again once it is
stale, and the history of parity checks, which is read from its source anew
each time.
-/

import ServerMonitor.Cache.Cell
import ServerMonitor.Model.NetworkServices
import ServerMonitor.Payload.Basic
import ServerMonitor.Text.Quoted

namespace ServerMonitor

namespace Kind

/-- The empty value of a kind. -/
def emptyModel : (kind : Kind) → kind.Model
  | host => default
  | array => default
  | disks => []
  | shares => []
  | containers => []
  | machines => []
  | power => default
  | networkPower => default
  | graphics => []
  | network => []
  | hardware => default
  | license => default
  | notifications => default
  | unassigned => default
  | zfsPools => []
  | zfsDatasets => []
  | zfsSnapshots => []
  | zfsCache => default
  | collectorState => default

/-- The kinds whose payloads are lists; an entry of such a kind is never absent. -/
def isList : Kind → Bool
  | disks | shares | containers | machines | graphics | network => true
  | zfsPools | zfsDatasets | zfsSnapshots => true
  | _ => false

end Kind

structure Cache where
  /-- The latest payloads, at most one of each kind. -/
  snapshots : List Payload
  networkServices : AgingCell NetworkServices
  networkServicesSource : Option (Source NetworkServices)
  paritySource : Option (Source ParityHistory)

namespace Cache

/-- Milliseconds for which the network services stay fresh unless something else is said. -/
def defaultLifetime : Nat := 30000

/-- A cache that holds nothing and has no sources. -/
def empty : Cache := ⟨[], .empty defaultLifetime, none, none⟩

def withLifetime (cache : Cache) (lifetime : Nat) : Cache :=
  { cache with networkServices := .empty lifetime }

/-! ### Entries fed by the bus -/

/-- Replaces the entry of a kind. -/
def store (cache : Cache) (payload : Payload) : Cache :=
  { cache with
    snapshots := payload :: cache.snapshots.filter fun other => other.kind ≠ payload.kind }

/-- The latest payload of a kind. -/
def payload? (cache : Cache) (kind : Kind) : Option Payload :=
  cache.snapshots.find? fun payload => payload.kind = kind

/-- The entry of a kind. -/
def find? (cache : Cache) (kind : Kind) : Option kind.Model :=
  (cache.payload? kind).bind fun payload => payload.valueOf? kind

/-- The entry of a kind, or its empty value. -/
def latest (cache : Cache) (kind : Kind) : kind.Model := (cache.find? kind).getD kind.emptyModel

/-- The names of the entries that hold a value, in their fixed order. -/
def populated (cache : Cache) : List String :=
  Kind.all.filterMap fun kind =>
    if (cache.payload? kind).isSome then kind.entry? else none

/-- The entry of a kind as text; null if it is absent. -/
def entryText (cache : Cache) (kind : Kind) : String :=
  if (cache.payload? kind).isSome || kind.isList then kind.schema.toText (cache.latest kind)
  else Json.Value.null.render

/-! ### Entries with a source -/

/-- Stores the state of the network services and restarts its freshness. -/
def storeNetworkServices (cache : Cache) (now : Nat) (services : NetworkServices) : Cache :=
  { cache with networkServices := cache.networkServices.store now services }

/-- Reads the state of the network services; without a source the last one is as good as any. -/
def readNetworkServices (cache : Cache) (now : Nat) : Cache × Reading NetworkServices :=
  match cache.networkServicesSource with
  | none => (cache, .value cache.networkServices.peek)
  | some source =>
    let (cell, asked, reading) := cache.networkServices.read now source
    ({ cache with networkServices := cell, networkServicesSource := some asked }, reading)

/-- Reads the history of parity checks; it is empty without a source or when reading fails. -/
def readParityHistory (cache : Cache) : Cache × Reading ParityHistory :=
  match cache.paritySource with
  | none => (cache, .value (some default))
  | some source =>
    let (asked, answer) := source.ask
    let reading := match answer with
      | .value history => Reading.value (some history)
      | .failure => .value (some default)
      | .panic => .panic
    ({ cache with paritySource := some asked }, reading)

/-- The cache as a diagnostic text. -/
def debug (cache : Cache) : String :=
  s!"CacheStore \x7b populated: {Text.quotedList cache.populated} \x7d"

end Cache

end ServerMonitor
