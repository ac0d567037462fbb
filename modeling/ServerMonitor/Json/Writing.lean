/-
This file writes values of a shape: fields in their order, without blanks.
-/

import ServerMonitor.Address.Basic
import ServerMonitor.Calendar.Notation
import ServerMonitor.Json.Real
import ServerMonitor.Json.Shape
import ServerMonitor.Json.Value

namespace ServerMonitor.Json

/-- A number that is not finite has no numeral and is written as null. -/
def Leaf.write : (leaf : Leaf) → leaf.Carrier → Value
  | .bool, value => .bool value
  | .text, value => .ofText value
  | .word16, value => .ofNat value.toNat
  | .word32, value => .ofNat value.toNat
  | .word64, value => .ofNat value.toNat
  | .signed64, value => .number (Numeral.ofInt value.toInt)
  | .real, value => if value.isFinite then .number (Numeral.ofReal value) else .null
  | .instant, value => .ofText value.written
  | .runState, value => .ofText value.name
  | .address, value => .ofText value.written

/-- A member unless its value is null. -/
def memberUnlessNull (name : String) (value : Value) : List (String × Value) :=
  match value with
  | .null => []
  | value => [(name, value)]

mutual

def Shape.write : (shape : Shape) → shape.Carrier → Value
  | .leaf leaf, value => leaf.write value
  | .optional _, none => .null
  | .optional inner, some value => inner.write value
  | .list item, items => .ofItems (items.map fun value => item.write value)
  | .dictionary shape, dictionary =>
    .ofMembers (dictionary.entries.map fun entry => (entry.1, shape.write entry.2))
  | .record fields, parts => .ofMembers (fields.write parts)

def Fields.write : (fields : Fields) → fields.Carrier → List (String × Value)
  | .nil, () => []
  | .cons name .always shape rest, (value, values) =>
    (name, shape.write value) :: rest.write values
  | .cons name .unlessNull shape rest, (value, values) =>
    memberUnlessNull name (shape.write value) ++ rest.write values
  | .cons name .mayBeAbsent shape rest, (some value, values) =>
    (name, shape.write value) :: rest.write values
  | .cons _ .mayBeAbsent _ rest, (none, values) => rest.write values

end

end ServerMonitor.Json
