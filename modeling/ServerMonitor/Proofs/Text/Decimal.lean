/-
This file states how the digits of a decimal are found again in a text: they are
the ones it starts with, provided that no further digit follows them. Zeros in
front fill a decimal to a width and do not change what it denotes.
-/

import Mathlib.Algebra.Group.Nat.Defs
import Mathlib.Data.List.Basic
import ServerMonitor.Text.Decimal

namespace ServerMonitor.Text

/-- No digit stands at the start of a text. -/
def NoDigitFirst (characters : List Char) : Prop :=
  ∀ first ∈ characters.head?, first.isDigit = false

@[simp]
theorem noDigitFirst_nil : NoDigitFirst [] := fun _ member => nomatch member

@[simp]
theorem noDigitFirst_cons (first : Char) (rest : List Char) :
    NoDigitFirst (first :: rest) ↔ first.isDigit = false := by
  simp [NoDigitFirst]

theorem spanDigits_append {digits rest : List Char} (all : ∀ digit ∈ digits, digit.isDigit = true)
    (ends : NoDigitFirst rest) : spanDigits (digits ++ rest) = (digits, rest) := by
  rw [spanDigits, List.takeWhile_append_of_pos all, List.dropWhile_append_of_pos all]
  cases rest with
  | nil => simp
  | cons first rest =>
    have none := (noDigitFirst_cons first rest).mp ends
    simp [none]

/-- A text is its leading digits and what follows them. -/
theorem spanDigits_spec (characters : List Char) :
    (∀ digit ∈ (spanDigits characters).1, digit.isDigit = true) ∧
      characters = (spanDigits characters).1 ++ (spanDigits characters).2 :=
  ⟨List.all_eq_true.mp List.all_takeWhile, (List.takeWhile_append_dropWhile).symm⟩

/-! ### Decimals -/

theorem isDigit_of_mem_decimal {number : Nat} {digit : Char} (member : digit ∈ decimal number) :
    digit.isDigit = true :=
  Nat.isDigit_of_mem_toDigits (by decide) (by decide) member

theorem decimal_ne_nil (number : Nat) : decimal number ≠ [] := Nat.toDigits_ne_nil

/-- The first digit of a decimal is zero only if it is the only one. -/
theorem decimal_of_zero_first {number : Nat} {later : List Char}
    (zero : decimal number = '0' :: later) : later = [] := by
  induction number using Nat.strongRecOn generalizing later with
  | ind number inductionHypothesis =>
    rw [decimal, Nat.toDigits_eq_if (by decide)] at zero
    split at zero
    · exact (List.cons.inj zero).2.symm
    · rename_i large
      -- The digits of the tenth come first, and the tenth is not zero.
      cases tenth : Nat.toDigits 10 (number / 10) with
      | nil => exact absurd tenth Nat.toDigits_ne_nil
      | cons first others =>
        rw [tenth, List.cons_append] at zero
        obtain ⟨rfl, -⟩ := List.cons.inj zero
        obtain rfl := inductionHypothesis (number / 10) (by omega) tenth
        have none : number / 10 = 0 := by rw [← ofDigits_decimal (number / 10), decimal, tenth]; rfl
        omega

/-! ### Decimals of a width -/

theorem isDigit_of_mem_paddedDecimal {width number : Nat} {digit : Char}
    (member : digit ∈ paddedDecimal width number) : digit.isDigit = true := by
  rcases List.mem_append.mp member with zero | digit
  · rw [List.eq_of_mem_replicate zero]
    rfl
  · exact isDigit_of_mem_decimal digit

theorem paddedDecimal_ne_nil (width number : Nat) : paddedDecimal width number ≠ [] :=
  List.append_ne_nil_of_right_ne_nil _ (decimal_ne_nil number)

theorem ofDigits_paddedDecimal (width number : Nat) :
    ofDigits (paddedDecimal width number) = number := by
  rw [paddedDecimal, ofDigits, Nat.ofDigitChars_append, Nat.ofDigitChars_replicate_zero,
    Nat.mul_zero]
  exact ofDigits_decimal number

theorem length_paddedDecimal {width number : Nat} (positive : 0 < width)
    (fits : number < 10 ^ width) : (paddedDecimal width number).length = width := by
  have short : (decimal number).length ≤ width :=
    (Nat.length_toDigits_le_iff (by decide) positive).mpr fits
  rw [paddedDecimal, List.length_append, List.length_replicate, Nat.sub_add_cancel short]

theorem spanDigits_paddedDecimal (width number : Nat) {rest : List Char}
    (ends : NoDigitFirst rest) :
    spanDigits (paddedDecimal width number ++ rest) = (paddedDecimal width number, rest) :=
  spanDigits_append (fun _ => isDigit_of_mem_paddedDecimal) ends

end ServerMonitor.Text
