/-
This file models JSON values and writes them without blanks, members in their
order. A value may also be the remains of a text that broke off: what was read
up to the fault is kept, so that a reader looking for the first fault in
document order can go through it. The fault is always in the last value of each
level, and every array and object around it is left open.
-/

import ServerMonitor.Json.Numeral
import ServerMonitor.Json.Text

namespace ServerMonitor.Json

inductive Value
  | null
  | bool (value : Bool)
  | number (numeral : Numeral)
  /-- A string; one whose surrogates do not pair up denotes no text. -/
  | text (value : Option String)
  /-- The items read, and whether the closing bracket was. -/
  | array (items : List Value) (closed : Bool)
  /-- The members read, and whether the closing brace was. -/
  | object (members : List (Option String × Value)) (closed : Bool)
  /-- Where a value should stand and none does. -/
  | malformed

namespace Value

/-- A complete array. -/
def ofItems (items : List Value) : Value := array items true

/-- A complete object. -/
def ofMembers (members : List (String × Value)) : Value :=
  object (members.map fun member => (some member.1, member.2)) true

def ofText (value : String) : Value := text (some value)

def ofNat (value : Nat) : Value := number (Numeral.ofNat value)

/-! ### Writing -/

mutual

def written : Value → List Char
  | null => ['n', 'u', 'l', 'l']
  | bool true => ['t', 'r', 'u', 'e']
  | bool false => ['f', 'a', 'l', 's', 'e']
  | number numeral => numeral.written
  | text value => writtenText (value.getD "")
  | array items _ => '[' :: writtenItems items ++ [']']
  | object members _ => '\x7b' :: writtenMembers members ++ ['\x7d']
  | malformed => []

def writtenItems : List Value → List Char
  | [] => []
  | [item] => item.written
  | item :: next :: rest => item.written ++ ',' :: writtenItems (next :: rest)

def writtenMembers : List (Option String × Value) → List Char
  | [] => []
  | [(key, value)] => writtenText (key.getD "") ++ ':' :: value.written
  | (key, value) :: next :: rest =>
    writtenText (key.getD "") ++ ':' :: value.written ++ ',' :: writtenMembers (next :: rest)

end

/-- A value as text. -/
def render (value : Value) : String := String.ofList value.written

end Value

end ServerMonitor.Json
