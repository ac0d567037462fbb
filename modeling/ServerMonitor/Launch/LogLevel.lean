/-
This file models how much the program says about what it does.
-/

import ServerMonitor.Text.Decimal

namespace ServerMonitor.Launch

/-- The levels of messages from the rarest to the most frequent; a threshold is a level too, and
lets through the messages up to it. -/
inductive LogLevel
  | off
  | error
  | warn
  | info
  | debug
  | trace
deriving DecidableEq, Inhabited

namespace LogLevel

def all : List LogLevel := [off, error, warn, info, debug, trace]

def rank : LogLevel → Nat
  | off => 0
  | error => 1
  | warn => 2
  | info => 3
  | debug => 4
  | trace => 5

def name : LogLevel → String
  | off => "OFF"
  | error => "ERROR"
  | warn => "WARN"
  | info => "INFO"
  | debug => "DEBUG"
  | trace => "TRACE"

/-- The level that a text names: by its rank, or by its name in whatever letter case; an empty text
stands for errors only. -/
def ofText? (text : String) : Option LogLevel :=
  if text = "" then some error
  else
    match Text.boundedNat? UInt64.size text with
    | some rank => all[rank]?
    | none => all.find? fun level => level.name.toList = text.toList.map Char.toUpper

/-- Whether a threshold lets messages of a level through. -/
def shows (threshold level : LogLevel) : Bool := level.rank ≤ threshold.rank

end LogLevel

end ServerMonitor.Launch
