/-
This file states which words are numerals. A word is put together from a sign, a
whole part, a fraction and an exponent. The scanner finds exactly these words, as
long as what follows cannot go on the numeral: each part ends where the next one
starts, since none starts with a digit. Every numeral has the word in which it is
written, and others.
-/

import ServerMonitor.Json.Numeral
import ServerMonitor.Proofs.Text.Decimal

namespace ServerMonitor.Json

open Text

namespace Numeral

/-! ### Words -/

/-- Whether a word consists of digits, of which there is at least one. -/
def AreDigits (word : List Char) : Prop := word ≠ [] ∧ ∀ digit ∈ word, digit.isDigit = true

/-- The words for a whole part: one zero, or digits that start with another one. -/
inductive WholeWord : Nat → List Char → Prop
  | zero : WholeWord 0 ['0']
  | digits {first : Char} {later : List Char} (nonzero : first ≠ '0')
      (all : AreDigits (first :: later)) : WholeWord (ofDigits (first :: later)) (first :: later)

/-- The words for a fraction: a point and digits, or nothing. -/
inductive FractionWord : List Digit → List Char → Prop
  | absent : FractionWord [] []
  | digits {digits : List Char} (all : AreDigits digits) :
      FractionWord (digits.map digitOf) ('.' :: digits)

/-- The words for an exponent: a letter, a sign or none, and digits; or nothing. -/
inductive ExponentWord : Option Int → List Char → Prop
  | absent : ExponentWord none []
  | digits {letter : Char} {sign digits : List Char} (isLetter : letter = 'e' ∨ letter = 'E')
      (isSign : sign = [] ∨ sign = ['+'] ∨ sign = ['-']) (all : AreDigits digits) :
      ExponentWord (some (if sign = ['-'] then -(ofDigits digits : Int) else ofDigits digits))
        (letter :: (sign ++ digits))

/-- The words for a number. -/
inductive Word : Numeral → List Char → Prop
  | parts {negative : Bool} {whole : Nat} {fraction : List Digit} {exponent : Option Int}
      {wholeWord fractionWord exponentWord : List Char} (wholePart : WholeWord whole wholeWord)
      (fractionPart : FractionWord fraction fractionWord)
      (exponentPart : ExponentWord exponent exponentWord) :
      Word ⟨negative, whole, fraction, exponent⟩
        ((if negative then ['-'] else []) ++ (wholeWord ++ (fractionWord ++ exponentWord)))

/-- What follows a numeral and cannot go on it. -/
def Ended (rest : List Char) : Prop :=
  ∀ first ∈ rest.head?, first.isDigit = false ∧ first ≠ '.' ∧ first ≠ 'e' ∧ first ≠ 'E'

theorem WholeWord.areDigits {whole : Nat} {word : List Char} (isWord : WholeWord whole word) :
    AreDigits word := by
  cases isWord with
  | zero => exact ⟨List.cons_ne_nil _ _, List.forall_mem_singleton.mpr rfl⟩
  | digits _ all => exact all

/-- A word that goes on after digits does not start with one. -/
theorem AreDigits.head {word : List Char} (digits : AreDigits word) :
    ∃ first later, word = first :: later ∧ first.isDigit = true := by
  obtain ⟨some, all⟩ := digits
  cases word with
  | nil => exact absurd rfl some
  | cons first later => exact ⟨first, later, rfl, all first List.mem_cons_self⟩

/-- A numeral starts with a sign or a digit. -/
theorem Word.starts {numeral : Numeral} {word : List Char} (isWord : Word numeral word) :
    ∃ first later, word = first :: later ∧ (first = '-' ∨ first.isDigit = true) := by
  cases isWord with
  | @parts negative whole _ _ wholeWord fractionWord exponentWord wholePart _ _ =>
    cases negative with
    | true => exact ⟨'-', _, rfl, .inl rfl⟩
    | false =>
      obtain ⟨first, later, rfl, digit⟩ := wholePart.areDigits.head
      exact ⟨first, _, rfl, .inr digit⟩

/-! ### Words are scanned -/

section

variable {rest : List Char}

theorem noDigitFirst_of_ended (ended : Ended rest) : NoDigitFirst rest :=
  fun first member => (ended first member).1

theorem scanExponent?_of_word {exponent : Option Int} {word : List Char}
    (isWord : ExponentWord exponent word) (ended : Ended rest) :
    scanExponent? (word ++ rest) = some (exponent, rest) := by
  cases isWord with
  | absent =>
    cases rest with
    | nil => rfl
    | cons first rest =>
      obtain ⟨-, -, lower, upper⟩ := ended first rfl
      exact if_neg (not_or.mpr ⟨lower, upper⟩)
  | @digits letter sign digits isLetter isSign all =>
    have spanned := spanDigits_append all.2 (noDigitFirst_of_ended ended)
    have signed : scanSign (sign ++ digits ++ rest) = (decide (sign = ['-']), digits ++ rest) := by
      rcases isSign with rfl | rfl | rfl
      · obtain ⟨first, later, rfl, digit⟩ := all.head
        have minus : first ≠ '-' := by rintro rfl; cases digit
        have plus : first ≠ '+' := by rintro rfl; cases digit
        exact scanSign.eq_3 _ (fun _ same => minus (List.cons.inj same).1)
          fun _ same => plus (List.cons.inj same).1
      · rfl
      · rfl
    rw [List.cons_append, scanExponent?, if_pos isLetter, signed]
    dsimp only
    rw [spanned, if_neg all.1]
    by_cases minus : sign = ['-'] <;> simp [minus]

theorem scanFraction?_of_word {fraction : List Digit} {word : List Char}
    (isWord : FractionWord fraction word) (ends : NoDigitFirst rest)
    (noPoint : ∀ first ∈ rest.head?, first ≠ '.') :
    scanFraction? (word ++ rest) = some (fraction, rest) := by
  cases isWord with
  | absent =>
    exact scanFraction?.eq_2 rest fun _ point => noPoint '.' (by rw [point]; rfl) rfl
  | digits all =>
    rw [List.cons_append, scanFraction?, spanDigits_append all.2 ends]
    exact if_neg all.1

theorem scanWhole?_of_word {whole : Nat} {word : List Char} (isWord : WholeWord whole word)
    (ends : NoDigitFirst rest) : scanWhole? (word ++ rest) = some (whole, rest) := by
  rw [scanWhole?, spanDigits_append isWord.areDigits.2 ends]
  cases isWord with
  | zero => rfl
  | digits nonzero _ =>
    dsimp only
    split
    · rename_i empty
      cases empty
    · rename_i zero
      exact absurd (List.cons.inj zero).1 nonzero
    · rfl

/-- An exponent starts with a letter, and what follows a numeral with none of its characters. -/
theorem ended_of_exponentWord {exponent : Option Int} {word : List Char}
    (isWord : ExponentWord exponent word) (ended : Ended rest) :
    ∀ first ∈ (word ++ rest).head?, first.isDigit = false ∧ first ≠ '.' := by
  cases isWord with
  | absent => exact fun first member => ⟨(ended first member).1, (ended first member).2.1⟩
  | digits isLetter _ _ =>
    intro first member
    obtain rfl := Option.some.inj member
    rcases isLetter with rfl | rfl <;> decide

theorem noDigitFirst_of_fractionWord {fraction : List Digit} {word : List Char}
    (isWord : FractionWord fraction word) (ends : NoDigitFirst rest) :
    NoDigitFirst (word ++ rest) := by
  cases isWord with
  | absent => exact ends
  | digits _ => exact (noDigitFirst_cons _ _).mpr rfl

/-- A numeral is found again in its word, if nothing goes on with it. -/
theorem scan?_of_word {numeral : Numeral} {word : List Char} (isWord : Word numeral word)
    (ended : Ended rest) : scan? (word ++ rest) = some (numeral, rest) := by
  cases isWord with
  | @parts negative whole fraction exponent wholeWord fractionWord exponentWord wholePart
      fractionPart exponentPart =>
    have exponentEnds := ended_of_exponentWord exponentPart ended
    have fractionEnds : NoDigitFirst (exponentWord ++ rest) :=
      fun first member => (exponentEnds first member).1
    have wholeScanned :=
      scanWhole?_of_word wholePart (noDigitFirst_of_fractionWord fractionPart fractionEnds)
    have fractionScanned := scanFraction?_of_word fractionPart fractionEnds
      fun first member => (exponentEnds first member).2
    have exponentScanned := scanExponent?_of_word exponentPart ended
    cases negative with
    | true => simp [scan?, wholeScanned, fractionScanned, exponentScanned]
    | false =>
      obtain ⟨first, later, rfl, digit⟩ := wholePart.areDigits.head
      have notMinus : first ≠ '-' := by rintro rfl; cases digit
      rw [List.cons_append] at wholeScanned
      simp [scan?, notMinus, wholeScanned, fractionScanned, exponentScanned]

end

/-! ### What is scanned is a word -/

section

variable {characters rest : List Char}

theorem exists_word_of_scanWhole? {whole : Nat}
    (scanned : scanWhole? characters = some (whole, rest)) :
    ∃ word, characters = word ++ rest ∧ WholeWord whole word := by
  obtain ⟨all, whole⟩ := spanDigits_spec characters
  rw [scanWhole?] at scanned
  dsimp only at scanned
  split at scanned
  · cases scanned
  · cases scanned
  · rename_i some notZero
    obtain ⟨rfl, rfl⟩ := Prod.mk.inj (Option.some.inj scanned)
    refine ⟨_, whole, ?_⟩
    cases digits : (spanDigits characters).1 with
    | nil => exact absurd digits some
    | cons first later =>
      rw [digits] at all
      by_cases zero : first = '0'
      · subst zero
        cases later with
        | nil => exact .zero
        | cons second others => exact absurd digits (notZero second others)
      · exact .digits zero ⟨List.cons_ne_nil _ _, all⟩

theorem exists_word_of_scanFraction? {fraction : List Digit}
    (scanned : scanFraction? characters = some (fraction, rest)) :
    ∃ word, characters = word ++ rest ∧ FractionWord fraction word := by
  unfold scanFraction? at scanned
  split at scanned
  · rename_i later
    obtain ⟨all, whole⟩ := spanDigits_spec later
    dsimp only at scanned
    split at scanned
    · cases scanned
    · rename_i some
      obtain ⟨rfl, rfl⟩ := Prod.mk.inj (Option.some.inj scanned)
      exact ⟨_, congrArg ('.' :: ·) whole, .digits ⟨some, all⟩⟩
  · obtain ⟨rfl, rfl⟩ := Prod.mk.inj (Option.some.inj scanned)
    exact ⟨[], rfl, .absent⟩

theorem scanSign_spec (characters : List Char) :
    ∃ sign, characters = sign ++ (scanSign characters).2 ∧
      (sign = [] ∨ sign = ['+'] ∨ sign = ['-']) ∧
      (scanSign characters).1 = decide (sign = ['-']) := by
  unfold scanSign
  split
  · exact ⟨['-'], rfl, .inr (.inr rfl), rfl⟩
  · exact ⟨['+'], rfl, .inr (.inl rfl), rfl⟩
  · exact ⟨[], rfl, .inl rfl, rfl⟩

theorem exists_word_of_scanExponent? {exponent : Option Int}
    (scanned : scanExponent? characters = some (exponent, rest)) :
    ∃ word, characters = word ++ rest ∧ ExponentWord exponent word := by
  cases characters with
  | nil =>
    obtain ⟨rfl, rfl⟩ := Prod.mk.inj (Option.some.inj scanned)
    exact ⟨[], rfl, .absent⟩
  | cons first later =>
    rw [scanExponent?] at scanned
    split at scanned
    · rename_i isLetter
      obtain ⟨sign, signed, isSign, minus⟩ := scanSign_spec later
      obtain ⟨all, whole⟩ := spanDigits_spec (scanSign later).2
      dsimp only at scanned
      split at scanned
      · cases scanned
      · rename_i some
        obtain ⟨rfl, rfl⟩ := Prod.mk.inj (Option.some.inj scanned)
        refine ⟨first :: (sign ++ (spanDigits (scanSign later).2).1), ?_, ?_⟩
        · rw [List.cons_append, List.append_assoc, ← whole, ← signed]
        · have exponent := ExponentWord.digits isLetter isSign ⟨some, all⟩
          rw [minus]
          simpa using exponent
    · obtain ⟨rfl, rfl⟩ := Prod.mk.inj (Option.some.inj scanned)
      exact ⟨[], rfl, .absent⟩

/-- The scanner finds numerals in their words only. -/
theorem exists_word_of_scan? {numeral : Numeral}
    (scanned : scan? characters = some (numeral, rest)) :
    ∃ word, characters = word ++ rest ∧ Word numeral word := by
  unfold scan? at scanned
  split at scanned
  rename_i negative unsigned signed
  have start : characters = (if negative then ['-'] else []) ++ unsigned := by
    split at signed <;> cases signed <;> rfl
  clear signed
  obtain ⟨⟨whole, afterWhole⟩, wholeScanned, scanned⟩ := Option.bind_eq_some_iff.mp scanned
  obtain ⟨⟨fraction, afterFraction⟩, fractionScanned, scanned⟩ := Option.bind_eq_some_iff.mp scanned
  obtain ⟨⟨exponent, after⟩, exponentScanned, scanned⟩ := Option.bind_eq_some_iff.mp scanned
  obtain ⟨rfl, rfl⟩ := Prod.mk.inj (Option.some.inj scanned)
  obtain ⟨wholeWord, rfl, wholePart⟩ := exists_word_of_scanWhole? wholeScanned
  obtain ⟨fractionWord, rfl, fractionPart⟩ := exists_word_of_scanFraction? fractionScanned
  obtain ⟨exponentWord, rfl, exponentPart⟩ := exists_word_of_scanExponent? exponentScanned
  refine ⟨_, ?_, .parts wholePart fractionPart exponentPart⟩
  rw [start]
  simp only [List.append_assoc]

end

/-! ### Numerals as they are written -/

theorem isDigit_digitCharacter (digit : Digit) : (digitCharacter digit).isDigit = true := by
  revert digit
  decide

@[simp]
theorem digitOf_digitCharacter (digit : Digit) : digitOf (digitCharacter digit) = digit := by
  revert digit
  decide

theorem areDigits_decimal (number : Nat) : AreDigits (decimal number) :=
  ⟨decimal_ne_nil number, fun _ => isDigit_of_mem_decimal⟩

theorem wholeWord_decimal (number : Nat) : WholeWord number (decimal number) := by
  have value := ofDigits_decimal number
  have all := areDigits_decimal number
  cases digits : decimal number with
  | nil => exact absurd digits all.1
  | cons first later =>
    rw [digits] at value all
    by_cases zero : first = '0'
    · subst zero
      obtain rfl := decimal_of_zero_first digits
      obtain rfl : 0 = number := value
      exact .zero
    · have word := WholeWord.digits zero all
      rwa [value] at word

theorem fractionWord_written (fraction : List Digit) :
    FractionWord fraction (writtenFraction fraction) := by
  by_cases empty : fraction = []
  · rw [writtenFraction, if_pos empty, empty]
    exact .absent
  · have all : AreDigits (fraction.map digitCharacter) := by
      refine ⟨mt List.map_eq_nil_iff.mp empty, List.forall_mem_map.mpr fun digit _ => ?_⟩
      exact isDigit_digitCharacter digit
    have word := FractionWord.digits all
    have same : digitOf ∘ digitCharacter = id := funext digitOf_digitCharacter
    rw [List.map_map, same, List.map_id] at word
    rwa [writtenFraction, if_neg empty]

theorem exponentWord_written (exponent : Option Int) :
    ExponentWord exponent (writtenExponent exponent) := by
  cases exponent with
  | none => exact .absent
  | some exponent =>
    have all := areDigits_decimal exponent.natAbs
    have magnitude := ofDigits_decimal exponent.natAbs
    by_cases negative : exponent < 0
    · have word := ExponentWord.digits (.inl rfl) (.inr (.inr rfl)) all
      have value : -(exponent.natAbs : Int) = exponent := by omega
      rw [if_pos rfl, magnitude, value] at word
      rwa [writtenExponent, if_pos negative]
    · have word := ExponentWord.digits (.inl rfl) (.inr (.inl rfl)) all
      have value : (exponent.natAbs : Int) = exponent := by omega
      rw [if_neg (by decide), magnitude, value] at word
      rwa [writtenExponent, if_neg negative]

/-- What is written for a numeral is one of its words. -/
theorem word_written (numeral : Numeral) : Word numeral numeral.written := by
  obtain ⟨negative, whole, fraction, exponent⟩ := numeral
  have word : Word ⟨negative, whole, fraction, exponent⟩ _ :=
    .parts (wholeWord_decimal whole) (fractionWord_written fraction) (exponentWord_written exponent)
  rwa [← List.append_assoc, ← List.append_assoc] at word

end Numeral

end ServerMonitor.Json
