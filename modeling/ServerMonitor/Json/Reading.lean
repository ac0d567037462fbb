/-
This file reads values of a shape. The values are looked at in the order of the
text and the first fault is reported: a text that is no JSON is one kind of
fault, a value of another shape the other. Members a record does not know are
passed over; a record may also be written as an array of its fields.
-/

import ServerMonitor.Address.Notation
import ServerMonitor.Calendar.Notation
import ServerMonitor.Json.Document
import ServerMonitor.Json.Real
import ServerMonitor.Json.Shape

namespace ServerMonitor.Json

/-- Why a text is refused. -/
inductive Fault
  /-- The text is no JSON. -/
  | malformed
  /-- The text is JSON of another shape. -/
  | mismatch
deriving DecidableEq

/-- The fault of a value that stands where another kind of value belongs. Numbers out of range and
strings that denote no text are no JSON anywhere; arrays and objects are not looked into. -/
def Value.refusal : Value → Fault
  | .number numeral => if numeral.toReal?.isSome then .mismatch else .malformed
  | .text none => .malformed
  | .malformed => .malformed
  | _ => .mismatch

/-! ### Leaves -/

/-- A natural number below a bound, where integers may not be signed. -/
def readNatural (bound : Nat) (value : Value) : Except Fault Nat :=
  match value with
  | .number numeral =>
    if numeral.isInteger ∧ !numeral.negative ∧ numeral.whole < bound then .ok numeral.whole
    else .error value.refusal
  | _ => .error value.refusal

/-- The bound of the magnitudes of signed integers of 64 bits; a negative one may reach it. -/
def signedBound : Nat := UInt64.size / 2

/-- An integer of 64 bits; zero may not be signed. -/
def readSigned (value : Value) : Except Fault Int64 :=
  match value with
  | .number numeral =>
    if numeral.isInteger ∧ numeral.negative ∧ numeral.whole ≠ 0 ∧ numeral.whole ≤ signedBound then
      .ok (Int64.ofInt (-numeral.whole))
    else if numeral.isInteger ∧ !numeral.negative ∧ numeral.whole < signedBound then
      .ok (Int64.ofInt numeral.whole)
    else .error value.refusal
  | _ => .error value.refusal

def readReal (value : Value) : Except Fault Binary64 :=
  match value with
  | .number numeral => numeral.toReal?.elim (.error .malformed) .ok
  | _ => .error value.refusal

def readText (value : Value) : Except Fault String :=
  match value with
  | .text (some text) => .ok text
  | _ => .error value.refusal

/-- A text of a given notation. -/
def readNotation {Meaning : Type} (meaning? : String → Option Meaning) (value : Value) :
    Except Fault Meaning := do
  (meaning? (← readText value)).elim (.error .mismatch) .ok

/-- A state by its name, or as an object whose one member has that name and is null. -/
def readRunState (value : Value) : Except Fault RunState :=
  match value with
  | .object [(some name, .null)] true => (RunState.ofName? name).elim (.error .mismatch) .ok
  | .object _ closed => .error (if closed then .mismatch else .malformed)
  | _ => readNotation RunState.ofName? value

def Leaf.read : (leaf : Leaf) → Value → Except Fault leaf.Carrier
  | .bool, .bool value => .ok value
  | .bool, value => .error value.refusal
  | .text, value => readText value
  | .word16, value => (readNatural UInt16.size value).map UInt16.ofNat
  | .word32, value => (readNatural UInt32.size value).map UInt32.ofNat
  | .word64, value => (readNatural UInt64.size value).map UInt64.ofNat
  | .signed64, value => readSigned value
  | .real, value => readReal value
  | .instant, value => readNotation Instant.read? value
  | .runState, value => readRunState value
  | .address, value => readNotation Address.read? value

/-! ### Shapes -/

/-- What a field has when its member is missing: an optional one is null. -/
def Shape.missing? : (shape : Shape) → Option shape.Carrier
  | .optional _ => some none
  | _ => none

/-- For each field of a record, what its member held if it came already. -/
@[reducible]
def Fields.Slots : Fields → Type
  | .nil => Unit
  | .cons _ _ shape rest => Option shape.Carrier × rest.Slots

namespace Fields

/-- No member came yet. -/
def noSlots : (fields : Fields) → fields.Slots
  | .nil => ()
  | .cons _ _ _ rest => (none, rest.noSlots)

/-- The record whose members have all come. -/
def ofSlots : (fields : Fields) → fields.Slots → Except Fault fields.Carrier
  | .nil, () => .ok ()
  | .cons _ .mayBeAbsent _ rest, (slot, slots) => (rest.ofSlots slots).map (slot, ·)
  | .cons _ .always shape rest, (slot, slots) =>
    match slot <|> shape.missing? with
    | some value => (rest.ofSlots slots).map (value, ·)
    | none => .error .mismatch
  | .cons _ .unlessNull shape rest, (slot, slots) =>
    match slot <|> shape.missing? with
    | some value => (rest.ofSlots slots).map (value, ·)
    | none => .error .mismatch

/-- The end of a record written as an array: all further fields may be absent. -/
def atEnd : (fields : Fields) → Except Fault fields.Carrier
  | .nil => .ok ()
  | .cons _ .mayBeAbsent _ rest => rest.atEnd.map (none, ·)
  | .cons _ .always _ _ => .error .mismatch
  | .cons _ .unlessNull _ _ => .error .mismatch

end Fields

/-- Goes through the members of an object. A step that knows the key yields a new state. -/
def readMembers {State : Type} (put : State → String → Value → Except Fault (Option State))
    (state : State) : List (Option String × Value) → Except Fault State
  | [] => .ok state
  | (none, _) :: _ => .error .malformed
  | (some key, value) :: rest => do readMembers put ((← put state key value).getD state) rest

/-- Reads all items in order. -/
def readItems {Item : Type} (read : Value → Except Fault Item) :
    List Value → Except Fault (List Item)
  | [] => .ok []
  | value :: rest => do
    let item ← read value
    let items ← readItems read rest
    .ok (item :: items)

/-- The result of reading all parts of an array or object, once its end is known to be there. -/
def whenClosed {Result : Type} (closed : Bool) (result : Except Fault Result) :
    Except Fault Result :=
  if closed then result else .error .malformed

mutual

def Shape.read : (shape : Shape) → Value → Except Fault shape.Carrier
  | .leaf leaf, value => leaf.read value
  | .optional _, .null => .ok none
  | .optional inner, value => (inner.read value).map some
  | .list item, .array items closed => do
    let items ← readItems (fun value => item.read value) items
    whenClosed closed (.ok items)
  | .list _, value => .error value.refusal
  | .dictionary shape, .object members closed => do
    let dictionary ← readMembers
      (fun dictionary key value => (shape.read value).map fun entry =>
        some (dictionary.insert key entry))
      Dictionary.empty members
    whenClosed closed (.ok dictionary)
  | .dictionary _, value => .error value.refusal
  | .record fields, .array items closed => fields.readArray closed items
  | .record fields, .object members closed => do
    let slots ← readMembers (fun slots key value => fields.put slots key value) fields.noSlots
      members
    whenClosed closed (fields.ofSlots slots)
  | .record _, value => .error value.refusal

/-- Takes the member of one field; a field that came already is refused before its value is looked
at. Nothing is yielded for a key that no field has. -/
def Fields.put : (fields : Fields) → fields.Slots → String → Value →
    Except Fault (Option fields.Slots)
  | .nil, _, _, _ => .ok none
  | .cons name _ shape rest, (slot, slots), key, value =>
    if key = name then
      if slot.isSome then .error .mismatch
      else (shape.read value).map fun entry => some (some entry, slots)
    else (rest.put slots key value).map fun taken => taken.map (slot, ·)

/-- A record written as an array of its fields. -/
def Fields.readArray : (fields : Fields) → Bool → List Value → Except Fault fields.Carrier
  | .nil, closed, items => if closed ∧ items.isEmpty then .ok () else .error .malformed
  | .cons name presence shape rest, closed, [] =>
    whenClosed closed (Fields.cons name presence shape rest).atEnd
  | .cons _ .always shape rest, closed, value :: items => do
    let entry ← shape.read value
    (rest.readArray closed items).map (entry, ·)
  | .cons _ .unlessNull shape rest, closed, value :: items => do
    let entry ← shape.read value
    (rest.readArray closed items).map (entry, ·)
  | .cons _ .mayBeAbsent shape rest, closed, value :: items => do
    let entry ← shape.read value
    (rest.readArray closed items).map (some entry, ·)

end

end ServerMonitor.Json
