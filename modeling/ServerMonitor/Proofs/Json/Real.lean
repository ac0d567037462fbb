/-
This file states that a numeral never denotes an infinity or a value that is no
number: products and quotients that leave the finite numbers are refused where they
arise.
-/

import Mathlib.Data.Nat.Init
import ServerMonitor.Json.Real

namespace ServerMonitor

namespace Binary64

theorem isFinite_ofParts (negative : Bool) {significand : Nat} {exponent : Int}
    (small : (exponent + 1074).toNat + significand / leadingWeight < 2047) :
    (ofParts negative significand exponent).isFinite = true := by
  have weight : leadingWeight = 4503599627370496 := rfl
  have sign : signWeight = 9223372036854775808 := rfl
  rw [weight] at small
  have field : (ofParts negative significand exponent).exponentField =
      (exponent + 1074).toNat + significand / 4503599627370496 := by
    rw [exponentField, ofParts]
    cases negative <;>
      simp only [if_true, Bool.false_eq_true, if_false, UInt64.toNat_ofNat', weight, sign] <;> omega
  rw [isFinite, field, decide_eq_true_eq]
  omega

theorem isFinite_ofRatio {negative : Bool} {numerator denominator : Nat} {number : Binary64}
    (rounded : ofRatio? negative numerator denominator = some number) : number.isFinite = true := by
  unfold ofRatio? at rounded
  split at rounded
  · obtain rfl := Option.some.inj rounded
    exact isFinite_ofParts negative (by decide)
  · dsimp only at rounded
    split at rounded
    · cases rounded
    · rename_i small
      obtain rfl := Option.some.inj rounded
      exact isFinite_ofParts negative (Nat.lt_of_not_le small)

theorem isFinite_zero (negative : Bool) : (zero negative).isFinite = true :=
  isFinite_ofParts negative (by decide)

theorem isFinite_ofUInt64 (negative : Bool) (magnitude : UInt64) :
    (ofUInt64 negative magnitude).isFinite = true := by
  rw [ofUInt64]
  cases rounded : ofRatio? negative magnitude.toNat 1 with
  | none => exact isFinite_zero negative
  | some number => exact isFinite_ofRatio rounded

end Binary64

namespace Json.Numeral

open Binary64

theorem isFinite_scaled (tries : Nat) {number : Binary64} {power : Int} {result : Binary64}
    (finite : number.isFinite = true) (scaled : scaled?.go number power tries = some result) :
    result.isFinite = true := by
  induction tries generalizing number power with
  | zero => exact Option.some.inj scaled ▸ finite
  | succ tries inductionHypothesis =>
    rw [scaled?.go] at scaled
    split at scaled
    · split at scaled
      · exact isFinite_ofRatio scaled
      · exact isFinite_ofRatio scaled
    split at scaled
    · exact Option.some.inj scaled ▸ finite
    split at scaled
    · cases scaled
    · obtain ⟨smaller, divided, rest⟩ := Option.bind_eq_some_iff.mp scaled
      exact inductionHypothesis (isFinite_ofRatio divided) rest

/-- What a numeral denotes is finite. -/
theorem isFinite_of_toReal {numeral : Numeral} {number : Binary64}
    (denoted : numeral.toReal? = some number) : number.isFinite = true := by
  have finite := isFinite_ofUInt64 numeral.negative (UInt64.ofNat numeral.significandAndPower.1)
  unfold toReal? at denoted
  dsimp only at denoted
  split at denoted
  · exact isFinite_scaled _ finite denoted
  split at denoted
  · exact isFinite_scaled _ finite denoted
  split at denoted
  · cases denoted
  · exact Option.some.inj denoted ▸ isFinite_zero _

end Json.Numeral

end ServerMonitor
