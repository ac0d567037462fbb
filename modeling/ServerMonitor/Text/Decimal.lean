/-
This file reads and writes natural numbers in decimal and splits a text at the
end of its leading digits. Digits are the ten ASCII ones.
-/

namespace ServerMonitor.Text

/-- The value of a decimal digit. -/
def digitValue (character : Char) : Nat := character.toNat - '0'.toNat

/-- The digits a text starts with, and what follows them. -/
def spanDigits (characters : List Char) : List Char × List Char :=
  (characters.takeWhile Char.isDigit, characters.dropWhile Char.isDigit)

/-- The number that a run of digits denotes. -/
def ofDigits (digits : List Char) : Nat := Nat.ofDigitChars 10 digits 0

/-- A number in decimal, without leading zeros. -/
def decimal (number : Nat) : List Char := Nat.toDigits 10 number

/-- A number in decimal, filled with zeros to at least the given width. -/
def paddedDecimal (width number : Nat) : List Char :=
  List.replicate (width - (decimal number).length) '0' ++ decimal number

/-- A whole text as a number below the bound: an optional plus, then digits only. -/
def boundedNat? (bound : Nat) (text : String) : Option Nat :=
  let digits := match text.toList with
    | '+' :: rest => rest
    | characters => characters
  if digits ≠ [] ∧ digits.all Char.isDigit ∧ ofDigits digits < bound then some (ofDigits digits)
  else none

/-- The value of a hexadecimal digit of either case. -/
def hexValue? (character : Char) : Option Nat :=
  if character.isDigit then some (digitValue character)
  else if 'a' ≤ character ∧ character ≤ 'f' then some (character.toNat - 'a'.toNat + 10)
  else if 'A' ≤ character ∧ character ≤ 'F' then some (character.toNat - 'A'.toNat + 10)
  else none

/-- A number in lower-case hexadecimal, without leading zeros. -/
def hexadecimal (number : Nat) : List Char := Nat.toDigits 16 number

theorem ofDigits_decimal (number : Nat) : ofDigits (decimal number) = number :=
  Nat.ofDigitChars_toDigits (by decide) (by decide)

end ServerMonitor.Text
