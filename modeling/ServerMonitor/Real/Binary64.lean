/-
This file models the binary floating-point numbers of 64 bits by their bit
patterns. A finite number is a sign, a natural significand and a power of two;
rounding a quotient of naturals to the nearest such number is exact arithmetic,
so every operation here can be reasoned about.
-/

namespace ServerMonitor

/-- A floating-point number of 64 bits; two numbers are equal when their bits are. -/
structure Binary64 where
  bits : UInt64
deriving DecidableEq, Inhabited

namespace Binary64

/-! ### Parts of a number -/

/-- The weight of the sign bit. -/
def signWeight : Nat := 0x8000000000000000

/-- The weight of the lowest exponent bit, which is also that of the implicit leading bit of a
significand. -/
def leadingWeight : Nat := 0x10000000000000

/-- The sign is the top bit. -/
def isNegative (number : Binary64) : Bool := signWeight ≤ number.bits.toNat

def exponentField (number : Binary64) : Nat := number.bits.toNat / leadingWeight % 2048

def fractionField (number : Binary64) : Nat := number.bits.toNat % leadingWeight

def isFinite (number : Binary64) : Bool := number.exponentField ≠ 2047

/-- The natural number that the power of two scales: numbers with the smallest exponent have
no implicit leading bit. -/
def significand (number : Binary64) : Nat :=
  if number.exponentField = 0 then number.fractionField else number.fractionField + leadingWeight

/-- The power of two of a number's last significand bit. -/
def exponent (number : Binary64) : Int := (max number.exponentField 1 : Nat) - 1075

/-! ### Building numbers -/

/-- The number with this sign, significand and exponent. The significand has 53 bits, or fewer
with the smallest exponent −1074; the significand one beyond 53 bits carries into the exponent. -/
def ofParts (negative : Bool) (significand : Nat) (exponent : Int) : Binary64 :=
  let magnitude := (exponent + 1074).toNat * leadingWeight + significand
  ⟨UInt64.ofNat (if negative then magnitude + signWeight else magnitude)⟩

def zero (negative : Bool) : Binary64 := ofParts negative 0 (-1074)

instance : Zero Binary64 := ⟨zero false⟩

/-- A quotient rounded to the nearest natural number, a half to the even neighbour. -/
def roundedQuotient (numerator denominator : Nat) : Nat :=
  let floor := numerator / denominator
  let remainder := numerator % denominator
  if 2 * remainder < denominator then floor
  else if denominator < 2 * remainder then floor + 1
  else floor + floor % 2

/-- The quotient `numerator / denominator` scaled by a power of two, as a pair again. -/
def scaledRatio (numerator denominator : Nat) (power : Int) : Nat × Nat :=
  (numerator * Nat.pow 2 power.toNat, denominator * Nat.pow 2 (-power).toNat)

/-- The exponent at which the significand of a positive quotient has 53 bits, or the smallest. -/
def ratioExponent (numerator denominator : Nat) : Int :=
  let guess : Int := numerator.log2 - denominator.log2 - 52
  let scaled := scaledRatio numerator denominator (-guess)
  max (-1074) (if scaled.1 < scaled.2 * leadingWeight then guess - 1 else guess)

/-- The number nearest to a quotient of naturals, or nothing when that is beyond the largest
finite number. -/
def ofRatio? (negative : Bool) (numerator denominator : Nat) : Option Binary64 :=
  if numerator = 0 then some (zero negative) else
    let exponent := ratioExponent numerator denominator
    let scaled := scaledRatio numerator denominator (-exponent)
    let significand := roundedQuotient scaled.1 scaled.2
    if 2047 ≤ (exponent + 1074).toNat + significand / leadingWeight then none
    else some (ofParts negative significand exponent)

/-- The number nearest to a natural number of at most 64 bits. -/
def ofUInt64 (negative : Bool) (magnitude : UInt64) : Binary64 :=
  (ofRatio? negative magnitude.toNat 1).getD (zero negative)

/-! ### Products and quotients -/

/-- The product of two finite numbers, or nothing when it overflows. -/
def mul? (left right : Binary64) : Option Binary64 :=
  let product := scaledRatio (left.significand * right.significand) 1
    (left.exponent + right.exponent)
  ofRatio? (left.isNegative != right.isNegative) product.1 product.2

/-- The quotient of two finite numbers with a divisor that is not zero, or nothing when it
overflows. -/
def div? (left right : Binary64) : Option Binary64 :=
  let quotient := scaledRatio left.significand right.significand (left.exponent - right.exponent)
  ofRatio? (left.isNegative != right.isNegative) quotient.1 quotient.2

/-- The number nearest to a power of ten. -/
def tenPower (power : Nat) : Binary64 := (ofRatio? false (Nat.pow 10 power) 1).getD 0

end Binary64

end ServerMonitor
