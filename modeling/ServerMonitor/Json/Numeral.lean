/-
This file models the numbers of a JSON text by how they are written: a sign,
the whole part, the digits after the point and the exponent. What a numeral
denotes is decided by its reader.
-/

import ServerMonitor.Text.Decimal

namespace ServerMonitor.Json

open Text

/-- A decimal digit. -/
abbrev Digit := Fin 10

/-- The digit zero. -/
def zeroDigit : Digit := ⟨0, Nat.succ_pos 9⟩

/-- A number as written. There is no point when there are no digits after it. -/
structure Numeral where
  negative : Bool
  whole : Nat
  fraction : List Digit
  exponent : Option Int
deriving DecidableEq

namespace Numeral

/-- A numeral without point or exponent. -/
def ofNat (number : Nat) : Numeral := ⟨false, number, [], none⟩

def ofInt (number : Int) : Numeral := ⟨number < 0, number.natAbs, [], none⟩

def isInteger (numeral : Numeral) : Bool := numeral.fraction = [] && numeral.exponent = none

/-! ### Writing -/

def digitCharacter (digit : Digit) : Char := Nat.digitChar digit.val

/-- The digits after the point, point included. -/
def writtenFraction (fraction : List Digit) : List Char :=
  if fraction = [] then [] else '.' :: fraction.map digitCharacter

/-- The exponent, always signed. -/
def writtenExponent : Option Int → List Char
  | none => []
  | some exponent => 'e' :: (if exponent < 0 then '-' else '+') :: decimal exponent.natAbs

def written (numeral : Numeral) : List Char :=
  (if numeral.negative then ['-'] else []) ++ decimal numeral.whole ++
    writtenFraction numeral.fraction ++ writtenExponent numeral.exponent

/-! ### Scanning -/

def digitOf (character : Char) : Digit := Fin.ofNat 10 (digitValue character)

/-- The whole part: one zero, or digits that start with another one. -/
def scanWhole? (characters : List Char) : Option (Nat × List Char) :=
  let (digits, rest) := spanDigits characters
  match digits with
  | [] => none
  | '0' :: _ :: _ => none
  | _ => some (ofDigits digits, rest)

/-- A point and at least one digit, or nothing. -/
def scanFraction? (characters : List Char) : Option (List Digit × List Char) :=
  match characters with
  | '.' :: rest =>
    let (digits, after) := spanDigits rest
    if digits = [] then none else some (digits.map digitOf, after)
  | _ => some ([], characters)

/-- A sign if there is one, as whether it is a minus. -/
def scanSign (characters : List Char) : Bool × List Char :=
  match characters with
  | '-' :: rest => (true, rest)
  | '+' :: rest => (false, rest)
  | _ => (false, characters)

/-- The letter of an exponent, a sign or none, and at least one digit; or nothing. -/
def scanExponent? (characters : List Char) : Option (Option Int × List Char) :=
  match characters with
  | [] => some (none, [])
  | first :: rest =>
    if first = 'e' ∨ first = 'E' then
      let (minus, unsigned) := scanSign rest
      let (digits, after) := spanDigits unsigned
      if digits = [] then none
      else some (some (if minus then -(ofDigits digits : Int) else ofDigits digits), after)
    else some (none, characters)

/-- The numeral that a text starts with, and what follows it. -/
def scan? (characters : List Char) : Option (Numeral × List Char) := do
  let (negative, unsigned) := match characters with
    | '-' :: rest => (true, rest)
    | _ => (false, characters)
  let (whole, afterWhole) ← scanWhole? unsigned
  let (fraction, afterFraction) ← scanFraction? afterWhole
  let (exponent, rest) ← scanExponent? afterFraction
  some (⟨negative, whole, fraction, exponent⟩, rest)

end Numeral

end ServerMonitor.Json
