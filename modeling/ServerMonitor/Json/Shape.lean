/-
This file describes the shapes of typed JSON texts: which values a text may
hold and which type carries them. A record lists its fields in order and says
of each how it may be left out.
-/

import ServerMonitor.Address.Basic
import ServerMonitor.Calendar.Instant
import ServerMonitor.Json.Dictionary
import ServerMonitor.Model.RunState
import ServerMonitor.Real.Binary64

namespace ServerMonitor.Json

/-- The values without parts. -/
inductive Leaf
  | bool
  | text
  | word16
  | word32
  | word64
  | signed64
  | real
  | instant
  | runState
  | address
deriving DecidableEq

/-- The type that carries a leaf. -/
@[reducible]
def Leaf.Carrier : Leaf → Type
  | bool => Bool
  | text => String
  | word16 => UInt16
  | word32 => UInt32
  | word64 => UInt64
  | signed64 => Int64
  | real => Binary64
  | instant => Instant
  | runState => RunState
  | address => Address

/-- How a field may be left out. -/
inductive Presence
  /-- The field is always written. -/
  | always
  /-- The field is left out where it would be null. -/
  | unlessNull
  /-- The field may be absent, which differs from every value it can have. -/
  | mayBeAbsent
deriving DecidableEq

/-- What carries a field, given what carries its values. -/
@[reducible]
def Presence.Field (presence : Presence) (Carrier : Type) : Type :=
  match presence with
  | always => Carrier
  | unlessNull => Carrier
  | mayBeAbsent => Option Carrier

mutual

inductive Shape
  | leaf (leaf : Leaf)
  /-- The inner shape or null. -/
  | optional (inner : Shape)
  | list (item : Shape)
  | dictionary (value : Shape)
  | record (fields : Fields)

/-- The fields of a record in order. -/
inductive Fields
  | nil
  | cons (name : String) (presence : Presence) (shape : Shape) (rest : Fields)

end

mutual

/-- The type that carries the values of a shape. -/
@[reducible]
def Shape.Carrier : Shape → Type
  | .leaf leaf => leaf.Carrier
  | .optional inner => Option inner.Carrier
  | .list item => List item.Carrier
  | .dictionary value => Dictionary value.Carrier
  | .record fields => fields.Carrier

/-- The fields of a record as a tuple. -/
@[reducible]
def Fields.Carrier : Fields → Type
  | .nil => Unit
  | .cons _ presence shape rest => presence.Field shape.Carrier × rest.Carrier

end

namespace Shape

abbrev bool : Shape := .leaf .bool

abbrev text : Shape := .leaf .text

abbrev word16 : Shape := .leaf .word16

abbrev word32 : Shape := .leaf .word32

abbrev word64 : Shape := .leaf .word64

abbrev signed64 : Shape := .leaf .signed64

abbrev real : Shape := .leaf .real

abbrev instant : Shape := .leaf .instant

abbrev runState : Shape := .leaf .runState

abbrev address : Shape := .leaf .address

end Shape

namespace Fields

/-- A field that is always written. -/
abbrev field (name : String) (shape : Shape) (rest : Fields) : Fields :=
  .cons name .always shape rest

/-- A field that is left out where it would be null. -/
abbrev fieldUnlessNull (name : String) (shape : Shape) (rest : Fields) : Fields :=
  .cons name .unlessNull shape rest

/-- A field that may be absent. -/
abbrev optionalField (name : String) (shape : Shape) (rest : Fields) : Fields :=
  .cons name .mayBeAbsent shape rest

/-- The names of the fields. -/
def names : Fields → List String
  | .nil => []
  | .cons name _ _ rest => name :: rest.names

end Fields

end ServerMonitor.Json
