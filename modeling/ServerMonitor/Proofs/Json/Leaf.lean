/-
This file states that the values without parts are read back from what is written
for them. Floating-point numbers are the exception: an infinity has no numeral, and
the reader is not exact for every numeral, so a number is read back where the
reader finds it again from its shortest digits.
-/

import ServerMonitor.Json.Reading
import ServerMonitor.Json.Writing
import ServerMonitor.Proofs.Calendar.Notation
import ServerMonitor.Proofs.Json.Real
import ServerMonitor.Proofs.Json.Token

namespace ServerMonitor.Json

/-! ### Words -/

theorem readNatural_ofNat {bound number : Nat} (small : number < bound) :
    readNatural bound (.ofNat number) = .ok number :=
  if_pos ⟨rfl, rfl, small⟩

theorem readSigned_ofInt (number : Int64) :
    readSigned (.number (Numeral.ofInt number.toInt)) = .ok number := by
  have low := number.le_toInt
  have high := number.toInt_lt
  have bound : signedBound = 9223372036854775808 := rfl
  by_cases negative : number.toInt < 0
  · have value : -(number.toInt.natAbs : Int) = number.toInt := by omega
    have fits : number.toInt.natAbs ≠ 0 ∧ number.toInt.natAbs ≤ signedBound := by omega
    refine (if_pos ⟨rfl, decide_eq_true negative, fits⟩).trans ?_
    exact congrArg Except.ok ((congrArg Int64.ofInt value).trans (Int64.ofInt_toInt number))
  · have value : (number.toInt.natAbs : Int) = number.toInt := by omega
    have fits : number.toInt.natAbs < signedBound := by omega
    have unsigned : (!decide (number.toInt < 0)) = true := by rw [decide_eq_false negative]; rfl
    refine (if_neg fun minus => negative (of_decide_eq_true minus.2.1)).trans
      ((if_pos ⟨rfl, unsigned, fits⟩).trans ?_)
    exact congrArg Except.ok ((congrArg Int64.ofInt value).trans (Int64.ofInt_toInt number))

theorem readNotation_ofText {Meaning : Type} {meaning? : String → Option Meaning} {text : String}
    {meaning : Meaning} (known : meaning? text = some meaning) :
    readNotation meaning? (.ofText text) = .ok meaning := by
  show (meaning? text).elim _ _ = _
  rw [known]
  rfl

/-! ### Leaves -/

namespace Leaf

/-- Whether a value is found again from what is written for it, as far as that is not certain. -/
def IsLegible : (leaf : Leaf) → leaf.Carrier → Prop
  | real, number => number.isFinite = true ∧ (Numeral.ofReal number).toReal? = some number
  | address, value => Address.read? value.written = some value
  | _, _ => True

theorem read_write : (leaf : Leaf) → (value : leaf.Carrier) → leaf.IsLegible value →
    leaf.read (leaf.write value) = .ok value
  | bool, _, _ => rfl
  | text, _, _ => rfl
  | word16, value, _ => by
    rw [read, write, readNatural_ofNat value.toNat_lt]
    exact congrArg Except.ok UInt16.ofNat_toNat
  | word32, value, _ => by
    rw [read, write, readNatural_ofNat value.toNat_lt]
    exact congrArg Except.ok UInt32.ofNat_toNat
  | word64, value, _ => by
    rw [read, write, readNatural_ofNat value.toNat_lt]
    exact congrArg Except.ok UInt64.ofNat_toNat
  | signed64, value, _ => readSigned_ofInt value
  | real, number, legible => by
    rw [read, write, if_pos legible.1, readReal, legible.2]
    rfl
  | instant, value, _ => readNotation_ofText value.read?_written
  | runState, state, _ => readNotation_ofText (RunState.ofName?_name state)
  | address, value, legible => readNotation_ofText legible

/-- Null stands for no value that is found again. -/
theorem write_ne_null (leaf : Leaf) (value : leaf.Carrier) (legible : leaf.IsLegible value) :
    leaf.write value ≠ .null := by
  cases leaf with
  | real =>
    rw [write, if_pos legible.1]
    nofun
  | _ => nofun

/-- A floating-point number that was read is finite. -/
theorem isFinite_of_read {part : Value} {number : Binary64} (read : real.read part = .ok number) :
    number.isFinite = true := by
  cases part with
  | number numeral =>
    change numeral.toReal?.elim _ _ = _ at read
    cases denoted : numeral.toReal? with
    | none =>
      rw [denoted] at read
      cases read
    | some result =>
      rw [denoted] at read
      exact Except.ok.inj read ▸ Numeral.isFinite_of_toReal denoted
  | null | bool | text | array | object | malformed => cases read

theorem isComplete_write (leaf : Leaf) (value : leaf.Carrier) :
    (leaf.write value).IsComplete := by
  cases leaf with
  | real =>
    rw [write]
    split <;> trivial
  | _ => trivial

end Leaf

end ServerMonitor.Json
