/-
This file states which words stand for the pieces of a string. A piece is a
character that needs no escape, a short escape or a unit given by number; the
scanner finds exactly these words and ends at the first quote that is not escaped.
Every text has the word in which it is written: its characters are written by
number only below the surrogates, so the pieces denote the text again.
-/

import Mathlib.Data.List.Basic
import ServerMonitor.Json.Text

namespace ServerMonitor.Json

/-! ### Words -/

/-- The words for a piece of a string. -/
inductive Piece.Word : Piece → List Char → Prop
  | raw {character : Char} (quote : character ≠ '"') (backslash : character ≠ '\\')
      (printed : ¬character.toNat < 0x20) : Word (.character character) [character]
  | short {escape character : Char} (short : shortEscape? escape = some character) :
      Word (.character character) ['\\', escape]
  | number {first second third fourth : Char} {unit : Nat}
      (value : unitValue? first second third fourth = some unit) :
      Word (.unit unit) ['\\', 'u', first, second, third, fourth]

/-- The words for what stands between the quotes of a string. -/
inductive PiecesWord : List Piece → List Char → Prop
  | nil : PiecesWord [] []
  | cons {piece : Piece} {pieces : List Piece} {word words : List Char} (first : piece.Word word)
      (later : PiecesWord pieces words) : PiecesWord (piece :: pieces) (word ++ words)

/-! ### Words are scanned -/

section

variable (rest : List Char)

theorem scanPieces?_shortEscape {escape character : Char}
    (short : shortEscape? escape = some character) :
    scanPieces? ('\\' :: escape :: rest) =
      (scanPieces? rest).map fun scanned => (.character character :: scanned.1, scanned.2) := by
  have notUnit : escape ≠ 'u' := by
    rintro rfl
    cases short
  rw [scanPieces?.eq_4 _ _ (fun _ _ _ _ _ same _ => notUnit same), short]
  cases scanPieces? rest <;> rfl

theorem scanPieces?_unit {first second third fourth : Char} {unit : Nat}
    (value : unitValue? first second third fourth = some unit) :
    scanPieces? ('\\' :: 'u' :: first :: second :: third :: fourth :: rest) =
      (scanPieces? rest).map fun scanned => (.unit unit :: scanned.1, scanned.2) := by
  rw [scanPieces?, value]
  cases scanPieces? rest <;> rfl

theorem scanPieces?_raw {character : Char} (quote : character ≠ '"')
    (backslash : character ≠ '\\') (printed : ¬character.toNat < 0x20) :
    scanPieces? (character :: rest) =
      (scanPieces? rest).map fun scanned => (.character character :: scanned.1, scanned.2) := by
  rw [scanPieces?.eq_5 _ _ quote (fun _ _ _ _ _ same _ => backslash same)
    (fun _ _ same _ => backslash same), if_neg (not_or.mpr ⟨printed, backslash⟩)]
  cases scanPieces? rest <;> rfl

end

theorem scanPieces?_of_pieceWord {piece : Piece} {word : List Char} (isWord : piece.Word word)
    (rest : List Char) :
    scanPieces? (word ++ rest) =
      (scanPieces? rest).map fun scanned => (piece :: scanned.1, scanned.2) := by
  cases isWord with
  | raw quote backslash printed => exact scanPieces?_raw rest quote backslash printed
  | short short => exact scanPieces?_shortEscape rest short
  | number value => exact scanPieces?_unit rest value

/-- The pieces of a string are found again in their word, up to the closing quote. -/
theorem scanPieces?_of_word {pieces : List Piece} {word : List Char}
    (isWord : PiecesWord pieces word) (rest : List Char) :
    scanPieces? (word ++ '"' :: rest) = some (pieces, rest) := by
  induction isWord with
  | nil => rfl
  | cons first later inductionHypothesis =>
    rw [List.append_assoc, scanPieces?_of_pieceWord first, inductionHypothesis]
    rfl

/-- The scanner finds pieces in their words only. -/
theorem exists_word_of_scanPieces? {characters rest : List Char} {pieces : List Piece}
    (scanned : scanPieces? characters = some (pieces, rest)) :
    ∃ word, characters = word ++ '"' :: rest ∧ PiecesWord pieces word := by
  fun_induction scanPieces? characters generalizing pieces rest with
  | case1 => cases scanned
  | case2 later =>
    obtain ⟨rfl, rfl⟩ := Prod.mk.inj (Option.some.inj scanned)
    exact ⟨[], rfl, .nil⟩
  | case3 first second third fourth later inductionHypothesis =>
    obtain ⟨unit, value, scanned⟩ := Option.bind_eq_some_iff.mp scanned
    obtain ⟨⟨others, after⟩, found, scanned⟩ := Option.bind_eq_some_iff.mp scanned
    obtain ⟨rfl, rfl⟩ := Prod.mk.inj (Option.some.inj scanned)
    obtain ⟨word, rfl, isWord⟩ := inductionHypothesis found
    exact ⟨_, rfl, .cons (.number value) isWord⟩
  | case4 escape later notNumber inductionHypothesis =>
    obtain ⟨character, short, scanned⟩ := Option.bind_eq_some_iff.mp scanned
    obtain ⟨⟨others, after⟩, found, scanned⟩ := Option.bind_eq_some_iff.mp scanned
    obtain ⟨rfl, rfl⟩ := Prod.mk.inj (Option.some.inj scanned)
    obtain ⟨word, rfl, isWord⟩ := inductionHypothesis found
    exact ⟨_, rfl, .cons (.short short) isWord⟩
  | case5 => cases scanned
  | case6 character later quote _ _ printed inductionHypothesis =>
    obtain ⟨⟨others, after⟩, found, scanned⟩ := Option.bind_eq_some_iff.mp scanned
    obtain ⟨rfl, rfl⟩ := Prod.mk.inj (Option.some.inj scanned)
    obtain ⟨word, rfl, isWord⟩ := inductionHypothesis found
    obtain ⟨visible, backslash⟩ := not_or.mp printed
    exact ⟨_, rfl, .cons (.raw quote backslash visible) isWord⟩

/-! ### Texts as they are written -/

/-- How a character of a text comes back from its string: most controls by number. -/
def pieceOf (character : Char) : Piece :=
  if character.toNat < 0x20 ∧ character ∉ ['\x08', '\x0c', '\n', '\r', '\t'] then
    .unit character.toNat
  else .character character

theorem writtenCharacter_of_plain {character : Char}
    (plain : character ∉ ['"', '\\', '\x08', '\x0c', '\n', '\r', '\t'])
    (printed : ¬character.toNat < 0x20) : writtenCharacter character = [character] := by
  simp only [List.mem_cons, List.not_mem_nil, or_false, not_or] at plain
  obtain ⟨quote, backslash, backspace, feed, line, carriage, tab⟩ := plain
  rw [writtenCharacter, if_neg quote, if_neg backslash, if_neg backspace, if_neg feed, if_neg line,
    if_neg carriage, if_neg tab, if_neg printed]

theorem hexValue?_digitChar : ∀ digit < 16, Text.hexValue? (Nat.digitChar digit) = some digit := by
  decide

theorem unitValue?_of_lt {code : Nat} (small : code < 0x20) :
    unitValue? '0' '0' (Nat.digitChar (code / 16)) (Nat.digitChar (code % 16)) = some code := by
  have high := hexValue?_digitChar (code / 16) (by omega)
  have low := hexValue?_digitChar (code % 16) (by omega)
  have zero : Text.hexValue? '0' = some 0 := rfl
  have value : code / 16 * 16 + code % 16 = code := Nat.div_add_mod' code 16
  simp [unitValue?, high, low, zero, value]

/-- What is written for a character is a word for its piece. -/
theorem word_writtenCharacter (character : Char) :
    (pieceOf character).Word (writtenCharacter character) := by
  by_cases short : character ∈ ['"', '\\', '\x08', '\x0c', '\n', '\r', '\t']
  · simp only [List.mem_cons, List.not_mem_nil, or_false] at short
    rcases short with rfl | rfl | rfl | rfl | rfl | rfl | rfl <;> exact .short rfl
  · by_cases control : character.toNat < 0x20
    · simp only [List.mem_cons, List.not_mem_nil, or_false, not_or] at short
      obtain ⟨quote, backslash, backspace, feed, line, carriage, tab⟩ := short
      have word := Piece.Word.number (unitValue?_of_lt control)
      simpa [writtenCharacter, pieceOf, quote, backslash, backspace, feed, line, carriage, tab,
        control] using word
    · have quote : character ≠ '"' := fun same => short (same ▸ List.mem_cons_self)
      have backslash : character ≠ '\\' := fun same =>
        short (same ▸ List.mem_cons_of_mem _ List.mem_cons_self)
      rw [writtenCharacter_of_plain short control, pieceOf, if_neg (control ·.1)]
      exact .raw quote backslash control

theorem piecesWord_written (characters : List Char) :
    PiecesWord (characters.map pieceOf) (characters.flatMap writtenCharacter) := by
  induction characters with
  | nil => exact .nil
  | cons character characters inductionHypothesis =>
    exact .cons (word_writtenCharacter character) inductionHypothesis

theorem characters?_unit {code : Nat} (small : code < 0x20) (pieces : List Piece) :
    characters? (.unit code :: pieces) = (characters? pieces).map (Char.ofNat code :: ·) := by
  have high : isHighSurrogate code = false := by simp [isHighSurrogate]; omega
  have low : isLowSurrogate code = false := by simp [isLowSurrogate]; omega
  cases pieces with
  | nil => simp [characters?, high, low]
  | cons piece pieces => cases piece <;> simp [characters?, high, low]

theorem characters?_pieceOf (characters : List Char) :
    characters? (characters.map pieceOf) = some characters := by
  induction characters with
  | nil => rfl
  | cons character characters inductionHypothesis =>
    rw [List.map_cons, pieceOf]
    split
    · rename_i control
      rw [characters?_unit control.1, inductionHypothesis, Char.ofNat_toNat]
      rfl
    · rw [characters?, inductionHypothesis]
      rfl

/-- A text without quotes, backslashes and controls stands in its string as it is. -/
theorem writtenText_of_plain {text : String}
    (plain : ∀ character ∈ text.toList, writtenCharacter character = [character]) :
    writtenText text = '"' :: text.toList ++ ['"'] := by
  rw [writtenText, List.flatMap_congr plain, List.flatMap_singleton']

/-- The pieces of what is written for a text denote the text. -/
theorem textOf?_pieceOf (text : String) : textOf? (text.toList.map pieceOf) = some text := by
  rw [textOf?, characters?_pieceOf, Option.map_some, String.ofList_toList]

end ServerMonitor.Json
