/-
This file reads media types as a request declares them for its body, and says
which of them are JSON. Letter case does not matter.
-/

import ServerMonitor.Text.Blank

namespace ServerMonitor.Api

structure MediaType where
  type : String
  subtype : String
  /-- What follows the last plus sign of the subtype. -/
  suffix : Option String
deriving DecidableEq

namespace MediaType

/-! ### The grammar -/

/-- The characters of tokens other than letters and digits. -/
def tokenMarks : List Char := "!#$%&'*+-.^_`|~".toList

def isTokenCharacter (character : Char) : Bool :=
  character.isAlphanum || tokenMarks.contains character

/-- The characters inside quotation marks. -/
def isQuotable (character : Char) : Bool := character ≠ '\x7f' && '\x1f' < character

/-- The token that a text starts with, and what follows it. -/
def spanToken (characters : List Char) : List Char × List Char :=
  (characters.takeWhile isTokenCharacter, characters.dropWhile isTokenCharacter)

/-- Skips a quoted value after its opening mark; its first character may be a quotation mark
itself. -/
def skipQuoted? : List Char → Option (List Char)
  | [] => none
  | first :: rest =>
    if !isQuotable first then none
    else
      match rest.dropWhile fun character => character ≠ '"' && isQuotable character with
      | '"' :: after => some (after.dropWhile (· = ' '))
      | _ => none

/-- Skips the value of a parameter and yields the rest from its semicolon on. Only a quoted value
may be followed by blanks, and only the last value may be empty. -/
def skipValue? (characters : List Char) : Option (List Char) :=
  match characters with
  | '"' :: rest => skipQuoted? rest
  | _ =>
    match spanToken characters with
    | ([], ';' :: _) => none
    | (_, rest) => some rest

/-- Whether a text is a list of parameters, each behind a semicolon; at most as many are read as
given. -/
def areParameters : Nat → List Char → Bool
  | _, [] => true
  | 0, _ => false
  | count + 1, ';' :: rest =>
    match rest.dropWhile (· = ' ') with
    | [] => true
    | characters =>
      match spanToken characters with
      | (_ :: _, '=' :: value) => (skipValue? value).any (areParameters count)
      | _ => false
  | _, _ => false

/-- Splits a subtype at its last plus sign, unless it starts with that. -/
def splitSuffix (subtype : List Char) : List Char × Option (List Char) :=
  let suffix := (subtype.reverse.takeWhile (· ≠ '+')).reverse
  let stem := subtype.take (subtype.length - suffix.length - 1)
  if suffix.length < subtype.length && !stem.isEmpty then (stem, some suffix) else (subtype, none)

def lowerCase (characters : List Char) : String := String.ofList (characters.map Char.toLower)

/-- The media type that a text names. -/
def ofText? (text : String) : Option MediaType :=
  match spanToken text.toList with
  | (type@(_ :: _), '/' :: rest) =>
    let (subtype, parameters) := spanToken rest
    let (stem, suffix) := splitSuffix subtype
    if areParameters text.length parameters && (!subtype.isEmpty || parameters.isEmpty) then
      some ⟨lowerCase type, lowerCase stem, suffix.map lowerCase⟩
    else none
  | _ => none

/-- Whether bodies of a media type are JSON. -/
def isJson (mediaType : MediaType) : Bool :=
  mediaType.type = "application" && (mediaType.subtype = "json" || mediaType.suffix = some "json")

end MediaType

end ServerMonitor.Api
