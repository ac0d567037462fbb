/-
This file splits a JSON text into tokens. Blanks are the four that JSON knows.
The first lexeme that is none ends the sequence with a mark for the fault.
-/

import ServerMonitor.Json.Numeral
import ServerMonitor.Json.Text

namespace ServerMonitor.Json

inductive Token
  | openArray
  | closeArray
  | openObject
  | closeObject
  | colon
  | comma
  | null
  | bool (value : Bool)
  | number (numeral : Numeral)
  | text (value : Option String)
  | malformed
deriving DecidableEq

namespace Token

/-- Space, tab, line feed and carriage return. -/
def isBlank (character : Char) : Bool :=
  character = ' ' || character = '\t' || character = '\n' || character = '\r'

/-- The rest of a text behind a given beginning. -/
def afterWord? : List Char → List Char → Option (List Char)
  | [], characters => some characters
  | expected :: word, character :: rest =>
    if character = expected then afterWord? word rest else none
  | _ :: _, [] => none

/-- The token that a text without leading blanks starts with, and what follows it. -/
def scan? (characters : List Char) : Option (Token × List Char) :=
  match characters with
  | [] => none
  | '[' :: rest => some (openArray, rest)
  | ']' :: rest => some (closeArray, rest)
  | '\x7b' :: rest => some (openObject, rest)
  | '\x7d' :: rest => some (closeObject, rest)
  | ':' :: rest => some (colon, rest)
  | ',' :: rest => some (comma, rest)
  | 'n' :: rest => (afterWord? ['u', 'l', 'l'] rest).map (null, ·)
  | 't' :: rest => (afterWord? ['r', 'u', 'e'] rest).map (bool true, ·)
  | 'f' :: rest => (afterWord? ['a', 'l', 's', 'e'] rest).map (bool false, ·)
  | '"' :: rest => (scanPieces? rest).map fun (pieces, after) => (text (textOf? pieces), after)
  | _ => (Numeral.scan? characters).map fun (numeral, after) => (number numeral, after)

/-- The tokens of a text; every token uses up a character, so its length bounds their number. -/
def scanAll (characters : List Char) : List Token :=
  go characters.length (characters.dropWhile isBlank)
where
  go : Nat → List Char → List Token
    | _, [] => []
    | 0, _ => [malformed]
    | fuel + 1, characters =>
      match scan? characters with
      | none => [malformed]
      | some (token, rest) => token :: go fuel (rest.dropWhile isBlank)

end Token

end ServerMonitor.Json
