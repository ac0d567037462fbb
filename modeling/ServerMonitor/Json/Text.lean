/-
This file writes and reads the strings of a JSON text. Writing escapes quotes,
backslashes and controls only. Reading splits a string into characters and
16-bit units given by number; a string whose units pair up badly is well formed
but denotes no text.
-/

import ServerMonitor.Text.Decimal

namespace ServerMonitor.Json

open ServerMonitor.Text

/-! ### Writing -/

/-- How one character stands in a string. -/
def writtenCharacter (character : Char) : List Char :=
  if character = '"' then ['\\', '"']
  else if character = '\\' then ['\\', '\\']
  else if character = '\x08' then ['\\', 'b']
  else if character = '\x0c' then ['\\', 'f']
  else if character = '\n' then ['\\', 'n']
  else if character = '\r' then ['\\', 'r']
  else if character = '\t' then ['\\', 't']
  else if character.toNat < 0x20 then
    let code := character.toNat
    ['\\', 'u', '0', '0', Nat.digitChar (code / 16), Nat.digitChar (code % 16)]
  else [character]

/-- A text between quotes. -/
def writtenText (text : String) : List Char :=
  '"' :: text.toList.flatMap writtenCharacter ++ ['"']

/-! ### Reading -/

/-- What a string is made of: characters, and units given by number. -/
inductive Piece
  | character (value : Char)
  | unit (value : Nat)
deriving DecidableEq

/-- The character that a short escape stands for. -/
def shortEscape? (character : Char) : Option Char :=
  match character with
  | '"' => some '"'
  | '\\' => some '\\'
  | '/' => some '/'
  | 'b' => some '\x08'
  | 'f' => some '\x0c'
  | 'n' => some '\n'
  | 'r' => some '\r'
  | 't' => some '\t'
  | _ => none

/-- The unit that four hexadecimal digits denote. -/
def unitValue? (first second third fourth : Char) : Option Nat := do
  some ((((← hexValue? first) * 16 + (← hexValue? second)) * 16 + (← hexValue? third)) * 16 +
    (← hexValue? fourth))

/-- The pieces of a string after its opening quote, and what follows the closing one. Raw
controls, unknown escapes and a missing end are refused. -/
def scanPieces? : List Char → Option (List Piece × List Char)
  | [] => none
  | '"' :: rest => some ([], rest)
  | '\\' :: 'u' :: first :: second :: third :: fourth :: rest => do
    let unit ← unitValue? first second third fourth
    let (pieces, after) ← scanPieces? rest
    some (.unit unit :: pieces, after)
  | '\\' :: escape :: rest => do
    let character ← shortEscape? escape
    let (pieces, after) ← scanPieces? rest
    some (.character character :: pieces, after)
  | character :: rest =>
    if character.toNat < 0x20 ∨ character = '\\' then none
    else do
      let (pieces, after) ← scanPieces? rest
      some (.character character :: pieces, after)

def isHighSurrogate (unit : Nat) : Bool := 0xd800 ≤ unit && unit < 0xdc00

def isLowSurrogate (unit : Nat) : Bool := 0xdc00 ≤ unit && unit < 0xe000

/-- The characters that pieces denote: a high surrogate pairs with the low one right after it, and
no surrogate stands alone. -/
def characters? : List Piece → Option (List Char)
  | [] => some []
  | .character value :: rest => (characters? rest).map (value :: ·)
  | .unit high :: .unit low :: rest =>
    if isHighSurrogate high then
      if isLowSurrogate low then
        let code := 0x10000 + (high - 0xd800) * 0x400 + (low - 0xdc00)
        (characters? rest).map (Char.ofNat code :: ·)
      else none
    else if isLowSurrogate high then none
    else (characters? (.unit low :: rest)).map (Char.ofNat high :: ·)
  | .unit value :: rest =>
    if isHighSurrogate value ∨ isLowSurrogate value then none
    else (characters? rest).map (Char.ofNat value :: ·)

/-- The text that pieces denote. -/
def textOf? (pieces : List Piece) : Option String := (characters? pieces).map String.ofList

end ServerMonitor.Json
