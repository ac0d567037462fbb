/-
This file models topics whose messages have one type. Two topics are the same
when their names are.
-/

import ServerMonitor.Bus.Basic

namespace ServerMonitor

/-- A topic on which values of one type are published. -/
structure Topic (Value : Type) where
  name : String
deriving DecidableEq

namespace Topic

variable {Value : Type}

/-- A topic as a diagnostic text. -/
def debug (topic : Topic Value) : String := s!"Topic({Text.quoted topic.name})"

end Topic

/-- Publishes a value on the topic for its type. -/
def Bus.announce {Value Message : Type} (bus : Bus Message) (topic : Topic Value)
    (toMessage : Value → Message) (value : Value) : Bus Message × Nat :=
  bus.publish topic.name (toMessage value)

end ServerMonitor
