/-
This file models the environment variables that settings depend on. A variable
that is unset or unreadable gives way to the default.
-/

import ServerMonitor.Address.Notation

namespace ServerMonitor

/-- The variables as they are set. -/
structure Environment where
  port : Option String
  address : Option String
  logLevel : Option String
deriving DecidableEq, Inhabited

namespace Environment

def defaultPort : UInt16 := 8043

/-- The address of all interfaces. -/
def defaultAddress : Address := .unspecified

/-- A port is decimal, a plus before it is allowed. -/
def readPort? (text : String) : Option UInt16 :=
  (Text.boundedNat? UInt16.size text).map UInt16.ofNat

def effectivePort (environment : Environment) : UInt16 :=
  (environment.port.bind readPort?).getD defaultPort

def effectiveAddress (environment : Environment) : Address :=
  (environment.address.bind Address.read?).getD defaultAddress

end Environment

end ServerMonitor
