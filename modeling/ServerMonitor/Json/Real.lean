/-
This file says which floating-point number a numeral denotes and how a number
is written. Reading keeps as many leading digits as fit into 64 bits and scales
them by one power of ten, so the result may differ from the nearest number in
its last bit. Writing takes the shortest digits, with a point or an exponent
always.
-/

import ServerMonitor.Json.Numeral
import ServerMonitor.Real.Shortest

namespace ServerMonitor.Json.Numeral

/-! ### Reading -/

/-- A whole number cut to its leading digits that fit into 64 bits, and how many were cut. -/
def leadingDigits (whole : Nat) : Nat × Nat :=
  go whole 0 whole.log2
where
  go (whole cut : Nat) : Nat → Nat × Nat
    | 0 => (whole, cut)
    | tries + 1 => if whole < UInt64.size then (whole, cut) else go (whole / 10) (cut + 1) tries

/-- Fraction digits appended to a significand as long as 64 bits hold the result, and how many
were. -/
def appendFraction (significand taken : Nat) : List Digit → Nat × Nat
  | [] => (significand, taken)
  | digit :: rest =>
    if significand * 10 + digit.val < UInt64.size
    then appendFraction (significand * 10 + digit.val) (taken + 1) rest
    else (significand, taken)

/-- The significand of a numeral and the power of ten that scales it, its exponent apart. -/
def significandAndPower (numeral : Numeral) : Nat × Int :=
  let (whole, cut) := leadingDigits numeral.whole
  let (significand, taken) := appendFraction whole 0 numeral.fraction
  (significand, (cut : Int) - taken)

/-- The largest exponent that is taken at its word. -/
def exponentBound : Nat := 2147483647

/-- A number scaled by a power of ten in steps of at most 308, or nothing when it overflows. -/
def scaled? (number : Binary64) (power : Int) : Option Binary64 :=
  go number power (power.natAbs / 308 + 1)
where
  go (number : Binary64) (power : Int) : Nat → Option Binary64
    | 0 => some number
    | tries + 1 =>
      if power.natAbs ≤ 308 then
        if 0 ≤ power then number.mul? (Binary64.tenPower power.toNat)
        else number.div? (Binary64.tenPower power.natAbs)
      else if number.significand = 0 then some number
      else if 0 ≤ power then none
      else (number.div? (Binary64.tenPower 308)).bind fun smaller => go smaller (power + 308) tries

/-- The number that a numeral denotes, or nothing when it is out of range. -/
def toReal? (numeral : Numeral) : Option Binary64 :=
  let (significand, power) := numeral.significandAndPower
  let number := Binary64.ofUInt64 numeral.negative (UInt64.ofNat significand)
  match numeral.exponent with
  | none => scaled? number power
  | some exponent =>
    if exponent.natAbs ≤ exponentBound then scaled? number (power + exponent)
    else if significand ≠ 0 ∧ 0 < exponent then none
    else some (Binary64.zero numeral.negative)

/-! ### Writing -/

/-- The digits of a natural number. -/
def digitsOf (number : Nat) : List Digit := (Text.decimal number).map digitOf

/-- The natural number with the given digits. -/
def ofDigitList (digits : List Digit) : Nat :=
  digits.foldl (fun number digit => number * 10 + digit.val) 0

/-- A decimal as a numeral. The point stands among the digits or behind added zeros as long as it
is at most five places left of the first digit and at most sixteen right of it; otherwise the
first digit stands alone and an exponent follows. -/
def ofDecimal (negative : Bool) (decimal : Decimal) : Numeral :=
  let digits := digitsOf decimal.digits
  let point : Int := digits.length + decimal.power
  if 0 ≤ decimal.power ∧ point ≤ 16 then
    ⟨negative, decimal.digits * Nat.pow 10 decimal.power.toNat, [zeroDigit], none⟩
  else if 0 < point ∧ point ≤ 16 then
    ⟨negative, ofDigitList (digits.take point.toNat), digits.drop point.toNat, none⟩
  else if -5 < point ∧ point ≤ 0 then
    ⟨negative, 0, List.replicate point.natAbs zeroDigit ++ digits, none⟩
  else ⟨negative, ofDigitList (digits.take 1), digits.drop 1, some (point - 1)⟩

/-- How a finite number is written. -/
def ofReal (number : Binary64) : Numeral :=
  if number.significand = 0 then ⟨number.isNegative, 0, [zeroDigit], none⟩
  else ofDecimal number.isNegative number.shortest

end ServerMonitor.Json.Numeral
