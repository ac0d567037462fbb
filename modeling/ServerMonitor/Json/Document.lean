/-
This file reads a JSON value from tokens. The reader keeps the open arrays and
objects on a stack of its own and takes one token at a time, so no nesting is
too deep for it. A text that breaks off yields the remains of its value.
-/

import ServerMonitor.Json.Token
import ServerMonitor.Json.Value

namespace ServerMonitor.Json

/-- An array or object that is still open, its contents newest first. -/
inductive Enclosure
  | array (items : List Value)
  /-- The members, and the key whose value is being read. -/
  | object (members : List (Option String × Value)) (key : Option String)

namespace Enclosure

/-- The remains of an open enclosure around the remains of its current value. -/
def abandon (enclosure : Enclosure) (inner : Value) : Value :=
  match enclosure with
  | array items => .array (inner :: items).reverse false
  | object members key => .object ((key, inner) :: members).reverse false

end Enclosure

/-- What the reader takes next. -/
inductive Expecting
  | value
  /-- The first item of an array, or its end. -/
  | firstItem
  /-- The first key of the object with no members, or its end. -/
  | firstKey
  /-- The next key of an object with these members. -/
  | key (members : List (Option String × Value))
  /-- The colon after a key. -/
  | colon (members : List (Option String × Value)) (key : Option String)
  /-- What may follow a finished value inside the innermost enclosure. -/
  | separator (finished : Value)

/-- The remains of a whole value when the text breaks off. -/
def abandonAll (inner : Value) (enclosures : List Enclosure) : Value :=
  enclosures.foldl (fun value enclosure => enclosure.abandon value) inner

/-- The remains of the innermost value for what the reader was about to take. -/
def remains (expecting : Expecting) (enclosures : List Enclosure) : Value :=
  match expecting, enclosures with
  | .value, enclosures => abandonAll .malformed enclosures
  | .firstItem, enclosures => abandonAll (.array [] false) enclosures
  | .firstKey, enclosures => abandonAll (.object [] false) enclosures
  | .key members, enclosures => abandonAll (.object members.reverse false) enclosures
  | .colon members key, enclosures =>
    abandonAll (.object ((key, .malformed) :: members).reverse false) enclosures
  | .separator finished, .array items :: enclosures =>
    abandonAll (.array (finished :: items).reverse false) enclosures
  | .separator finished, .object members key :: enclosures =>
    abandonAll (.object ((key, finished) :: members).reverse false) enclosures
  | .separator finished, [] => finished

/-- The value that a single token is. -/
def Token.scalar? : Token → Option Value
  | null => some .null
  | bool value => some (.bool value)
  | number numeral => some (.number numeral)
  | text value => some (.text value)
  | _ => none

/-- The outcome of one token: a new position, or the fault. -/
abbrev Progress := Option (Expecting × List Enclosure)

/-- A token where a value may start. -/
def startValue (token : Token) (enclosures : List Enclosure) : Progress :=
  match token with
  | .openArray => some (.firstItem, enclosures)
  | .openObject => some (.firstKey, enclosures)
  | token => token.scalar?.map fun value => (.separator value, enclosures)

/-- A token after a finished value inside the innermost enclosure. -/
def afterValue (finished : Value) (token : Token) (enclosure : Enclosure)
    (enclosures : List Enclosure) : Progress :=
  match enclosure, token with
  | .array items, .comma => some (.value, .array (finished :: items) :: enclosures)
  | .array items, .closeArray =>
    some (.separator (.array (finished :: items).reverse true), enclosures)
  | .object members key, .comma => some (.key ((key, finished) :: members), enclosures)
  | .object members key, .closeObject =>
    some (.separator (.object ((key, finished) :: members).reverse true), enclosures)
  | _, _ => none

/-- One step of the reader inside a value. -/
def step (token : Token) (expecting : Expecting) (enclosures : List Enclosure) : Progress :=
  match expecting with
  | .value => startValue token enclosures
  | .firstItem =>
    if token = .closeArray then some (.separator (.array [] true), enclosures)
    else startValue token (.array [] :: enclosures)
  | .firstKey =>
    match token with
    | .closeObject => some (.separator (.object [] true), enclosures)
    | .text key => some (.colon [] key, enclosures)
    | _ => none
  | .key members =>
    match token with
    | .text key => some (.colon members key, enclosures)
    | _ => none
  | .colon members key =>
    if token = .colon then some (.value, .object members key :: enclosures) else none
  | .separator finished =>
    match enclosures with
    | [] => none
    | enclosure :: outer => afterValue finished token enclosure outer

/-- The value at the start of the tokens, and the tokens after it. -/
def readValue (expecting : Expecting) (enclosures : List Enclosure) :
    List Token → Value × List Token
  | [] => (remains expecting enclosures, [])
  | token :: rest =>
    match expecting, enclosures with
    | .separator finished, [] => (finished, token :: rest)
    | expecting, enclosures =>
      match step token expecting enclosures with
      | some (expecting, enclosures) => readValue expecting enclosures rest
      | none => (remains expecting enclosures, token :: rest)

/-- The first value of a text; what follows it is not looked at. -/
def readFirst (text : String) : Value :=
  (readValue .value [] (Token.scanAll text.toList)).1

/-- The value of a text that holds nothing else. -/
def readWhole (text : String) : Value × Bool :=
  let (value, rest) := readValue .value [] (Token.scanAll text.toList)
  (value, rest.isEmpty)

end ServerMonitor.Json
