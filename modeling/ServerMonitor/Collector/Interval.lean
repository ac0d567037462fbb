/-
This file holds the rules for the time between two passes of a collector: the
limits, the defaults of the known collectors and the order in which these are
listed.
-/

namespace ServerMonitor.Collector

/-- The shortest interval in seconds. -/
def shortestInterval : UInt64 := 5

/-- The longest interval in seconds. -/
def longestInterval : UInt64 := 3600

def isAllowedInterval (seconds : UInt64) : Bool :=
  shortestInterval ≤ seconds && seconds ≤ longestInterval

/-- The collectors that are listed first, in this order; others follow by name. -/
def listingOrder : List String := ["system", "array", "disk", "docker", "vm", "ups", "nut", "gpu",
  "shares", "network", "hardware", "zfs", "notification", "registration", "unassigned"]

/-- The interval of a collector that nothing else was said about. -/
def defaultInterval (name : String) : UInt64 :=
  match name with
  | "system" => 5
  | "array" | "docker" | "vm" | "ups" | "nut" | "gpu" => 10
  | "network" => 15
  | "disk" | "zfs" | "notification" => 30
  | "shares" | "hardware" | "unassigned" => 60
  | "registration" => 300
  | _ => 30

end ServerMonitor.Collector
