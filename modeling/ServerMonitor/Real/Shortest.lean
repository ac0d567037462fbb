/-
This file finds the shortest decimal that reads back as a given floating-point
number: among all decimals with the fewest digits inside the number's rounding
interval, the one nearest to the number. The search walks decimal grids from
coarse to fine and tests the two grid points next to the number, in exact
arithmetic.
-/

import ServerMonitor.Real.Binary64

namespace ServerMonitor

/-- A positive decimal: its digits as a natural number, and the power of ten of the last one. -/
structure Decimal where
  digits : Nat
  power : Int
deriving DecidableEq, Inhabited

namespace Binary64

/-- A ratio of naturals. -/
structure Ratio where
  numerator : Nat
  denominator : Nat

namespace Ratio

def less (left right : Ratio) : Bool :=
  left.numerator * right.denominator < right.numerator * left.denominator

def atMost (left right : Ratio) : Bool :=
  left.numerator * right.denominator ≤ right.numerator * left.denominator

/-- A natural number times a power of two. -/
def ofBinary (significand : Nat) (power : Int) : Ratio :=
  ⟨significand * Nat.pow 2 power.toNat, Nat.pow 2 (-power).toNat⟩

/-- A natural number times a power of ten. -/
def ofDecimal (digits : Nat) (power : Int) : Ratio :=
  ⟨digits * Nat.pow 10 power.toNat, Nat.pow 10 (-power).toNat⟩

/-- How often a power of ten fits into the ratio. -/
def floorAt (value : Ratio) (power : Int) : Nat :=
  value.numerator * Nat.pow 10 (-power).toNat / (value.denominator * Nat.pow 10 power.toNat)

end Ratio

/-- The magnitude of a finite number. -/
def magnitude (number : Binary64) : Ratio := Ratio.ofBinary number.significand number.exponent

/-- The lower end of the interval of magnitudes that round to this number. Below a power of two
the neighbours are twice as close. -/
def lowerEnd (number : Binary64) : Ratio :=
  if number.fractionField = 0 ∧ 1 < number.exponentField
  then Ratio.ofBinary (4 * number.significand - 1) (number.exponent - 2)
  else Ratio.ofBinary (2 * number.significand - 1) (number.exponent - 1)

/-- The upper end of that interval. -/
def upperEnd (number : Binary64) : Ratio :=
  Ratio.ofBinary (2 * number.significand + 1) (number.exponent - 1)

/-- Whether a magnitude rounds to this number: the ends do when the significand is even. -/
def covers (number : Binary64) (magnitude : Ratio) : Bool :=
  if number.significand % 2 = 0
  then number.lowerEnd.atMost magnitude && magnitude.atMost number.upperEnd
  else number.lowerEnd.less magnitude && magnitude.less number.upperEnd

/-- The point nearest to the number on the decimal grid of the given power, if one of its two
neighbours there rounds to it; a tie goes to the even one. -/
def onGrid? (number : Binary64) (power : Int) : Option Decimal :=
  let below := number.magnitude.floorAt power
  let lowCovered := 0 < below && number.covers (Ratio.ofDecimal below power)
  let highCovered := number.covers (Ratio.ofDecimal (below + 1) power)
  let middle := Ratio.ofDecimal (2 * below + 1) power
  let double : Ratio := ⟨2 * number.magnitude.numerator, number.magnitude.denominator⟩
  let nearerBelow := double.less middle || (double.atMost middle && below % 2 = 0)
  if lowCovered && (nearerBelow || !highCovered) then some ⟨below, power⟩
  else if highCovered then some ⟨below + 1, power⟩
  else none

/-- The first hit on grids of falling powers. -/
def firstOnGrids (number : Binary64) (power : Int) : Nat → Decimal
  | 0 => ⟨number.magnitude.floorAt power, power⟩
  | tries + 1 => (number.onGrid? power).getD (number.firstOnGrids (power - 1) tries)

/-- The power of ten of the leading digit of a positive magnitude. -/
def leadingPower (number : Binary64) : Int :=
  let value := number.magnitude
  let guess : Int := ((value.numerator.log2 : Int) - value.denominator.log2) * 30103 / 100000 - 1
  if 100 ≤ value.floorAt guess then guess + 2
  else if 10 ≤ value.floorAt guess then guess + 1 else guess

/-- A decimal without the zeros at its end. -/
def withoutTrailingZeros (decimal : Decimal) : Nat → Decimal
  | 0 => decimal
  | tries + 1 =>
    if 0 < decimal.digits ∧ decimal.digits % 10 = 0
    then withoutTrailingZeros ⟨decimal.digits / 10, decimal.power + 1⟩ tries
    else decimal

/-- The shortest decimal that rounds to a finite number other than zero; seventeen digits always
suffice. -/
def shortest (number : Binary64) : Decimal :=
  withoutTrailingZeros (number.firstOnGrids (number.leadingPower + 1) 18) 20

end Binary64

end ServerMonitor
