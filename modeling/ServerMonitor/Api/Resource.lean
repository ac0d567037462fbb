/-
This file lists what the paths of the interface name and the methods by which
each resource is asked.
-/

import ServerMonitor.Cache.Basic

namespace ServerMonitor

/-- The path of the latest payload of a kind, below the root of the interface. -/
def Kind.path : Kind → List String
  | .host => ["system"]
  | .array => ["array"]
  | .disks => ["disks"]
  | .shares => ["shares"]
  | .containers => ["docker"]
  | .machines => ["vm"]
  | .power => ["ups"]
  | .networkPower => ["nut"]
  | .graphics => ["gpu"]
  | .network => ["network"]
  | .hardware => ["hardware"]
  | .license => ["registration"]
  | .notifications => ["notifications"]
  | .unassigned => ["unassigned"]
  | .zfsPools => ["zfs", "pools"]
  | .zfsDatasets => ["zfs", "datasets"]
  | .zfsSnapshots => ["zfs", "snapshots"]
  | .zfsCache => ["zfs", "arc"]
  | .collectorState => []

namespace Api

/-- What a request can do to a collector. -/
inductive Control
  | enable
  | disable
  | changeInterval
deriving DecidableEq

/-- What a path names. The names of collectors are as they stand in the path. -/
inductive Resource
  | health
  | latest (kind : Kind)
  | parityHistory
  | networkServices
  | collectors
  | collector (name : String)
  | control (name : String) (control : Control)
  /-- The live connection. -/
  | stream
deriving DecidableEq

/-- How a resource is asked. -/
inductive Access
  /-- With a body in the answer or without. -/
  | get
  | post
  | patch
deriving DecidableEq

namespace Access

/-- The methods of an access. -/
def methods : Access → List String
  | get => ["GET", "HEAD"]
  | post => ["POST"]
  | patch => ["PATCH"]

/-- The methods as a header lists them. -/
def allow (access : Access) : String := String.intercalate "," access.methods

end Access

namespace Resource

/-- The resource with the given path below the root of the interface. -/
def ofPath? : List String → Option Resource
  | ["health"] => some health
  | ["array", "parity-history"] => some parityHistory
  | ["network", "services"] => some networkServices
  | ["collectors", "status"] => some collectors
  | ["collectors", name] => if name = "" then none else some (collector name)
  | ["collectors", name, "enable"] => if name = "" then none else some (control name .enable)
  | ["collectors", name, "disable"] => if name = "" then none else some (control name .disable)
  | ["collectors", name, "interval"] =>
    if name = "" then none else some (control name .changeInterval)
  | ["ws"] => some stream
  | path => (Kind.cached.find? fun kind => kind.path = path).map latest

/-- The resource that the segments of a whole path name. -/
def ofSegments? : List String → Option Resource
  | "" :: "api" :: "v1" :: path => ofPath? path
  | _ => none

def access : Resource → Access
  | control _ .changeInterval => .patch
  | control _ _ => .post
  | _ => .get

end Resource

end Api

end ServerMonitor
