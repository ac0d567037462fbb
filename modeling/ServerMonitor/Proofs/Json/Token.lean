/-
This file states which texts consist of which tokens: the words of the tokens stand
in their order, with any blanks around them. The scanner finds exactly the tokens of
such a text; only behind a number does it matter what comes next, and in the tokens
of a value that is nothing that could go on the number. The tokens of a value depend
on the value alone, not on what its strings contain.
-/

import Mathlib.Data.List.Chain
import ServerMonitor.Json.Token
import ServerMonitor.Json.Value
import ServerMonitor.Proofs.Json.Numeral
import ServerMonitor.Proofs.Json.Text

namespace ServerMonitor.Json

namespace Token

/-! ### Words -/

/-- The words for a token. -/
inductive Word : Token → List Char → Prop
  | openArray : Word openArray ['[']
  | closeArray : Word closeArray [']']
  | openObject : Word openObject ['\x7b']
  | closeObject : Word closeObject ['\x7d']
  | colon : Word colon [':']
  | comma : Word comma [',']
  | null : Word null ['n', 'u', 'l', 'l']
  | yes : Word (bool true) ['t', 'r', 'u', 'e']
  | no : Word (bool false) ['f', 'a', 'l', 's', 'e']
  | number {numeral : Numeral} {word : List Char} (isWord : numeral.Word word) :
      Word (number numeral) word
  | text {pieces : List Piece} {word : List Char} (isWord : PiecesWord pieces word) :
      Word (text (textOf? pieces)) ('"' :: (word ++ ['"']))

def AreBlank (characters : List Char) : Prop := ∀ character ∈ characters, isBlank character = true

/-- Whether a text consists of words for these tokens, with any blanks around them. -/
inductive Spells : List Token → List Char → Prop
  | nil {blanks : List Char} (blank : AreBlank blanks) : Spells [] blanks
  | cons {token : Token} {tokens : List Token} {blanks word rest : List Char}
      (blank : AreBlank blanks) (isWord : token.Word word) (later : Spells tokens rest) :
      Spells (token :: tokens) (blanks ++ (word ++ rest))

section

variable {token : Token} {tokens : List Token} {word rest characters : List Char}

theorem areBlank_nil : AreBlank [] := List.forall_mem_nil _

/-- A word without blanks before it. -/
theorem Spells.prepend (isWord : token.Word word) (later : Spells tokens rest) :
    Spells (token :: tokens) (word ++ rest) :=
  .cons areBlank_nil isWord later

/-- A word of one character. -/
theorem Spells.mark {mark : Char} (isWord : token.Word [mark]) (later : Spells tokens rest) :
    Spells (token :: tokens) (mark :: rest) :=
  .prepend isWord later

/-- Further blanks before a text make no difference. -/
theorem Spells.blanks {blanks : List Char} (spells : Spells tokens characters)
    (blank : AreBlank blanks) : Spells tokens (blanks ++ characters) := by
  cases spells with
  | nil more => exact .nil (List.forall_mem_append.mpr ⟨blank, more⟩)
  | cons more isWord later =>
    rw [← List.append_assoc]
    exact .cons (List.forall_mem_append.mpr ⟨blank, more⟩) isWord later

theorem Spells.of_dropWhile (spells : Spells tokens (characters.dropWhile isBlank)) :
    Spells tokens characters := by
  have whole := spells.blanks (List.all_eq_true.mp (List.all_takeWhile (l := characters)))
  rwa [List.takeWhile_append_dropWhile] at whole

theorem isBlank_eq_false_of_digit {first : Char} (digit : first.isDigit = true) :
    isBlank first = false := by
  refine Bool.eq_false_iff.mpr fun blank => ?_
  simp only [isBlank, Bool.or_eq_true, decide_eq_true_eq] at blank
  rcases blank with ((rfl | rfl) | rfl) | rfl <;> cases digit

/-- No word starts with a blank. -/
theorem Word.starts (isWord : token.Word word) :
    ∃ first later, word = first :: later ∧ isBlank first = false := by
  cases isWord with
  | number isWord =>
    obtain ⟨first, later, rfl, rfl | digit⟩ := isWord.starts
    · exact ⟨'-', later, rfl, rfl⟩
    · exact ⟨first, later, rfl, isBlank_eq_false_of_digit digit⟩
  | _ => exact ⟨_, _, rfl, rfl⟩

theorem dropWhile_blanks {blanks : List Char} (blank : AreBlank blanks) (rest : List Char) :
    (blanks ++ rest).dropWhile isBlank = rest.dropWhile isBlank :=
  List.dropWhile_append_of_pos blank

theorem Word.dropWhile (isWord : token.Word word) (rest : List Char) :
    (word ++ rest).dropWhile isBlank = word ++ rest := by
  obtain ⟨first, later, rfl, clear⟩ := isWord.starts
  exact List.dropWhile_cons_of_neg (by simp [clear])

/-! ### Words are scanned -/

theorem scan?_of_numeral {first : Char} (numeral : first = '-' ∨ first.isDigit = true)
    (rest : List Char) :
    scan? (first :: rest) =
      (Numeral.scan? (first :: rest)).map fun scanned => (.number scanned.1, scanned.2) := by
  have other {mark : Char} (minus : mark ≠ '-') (digit : mark.isDigit = false) (later : List Char)
      (same : first :: rest = mark :: later) : False := by
    obtain ⟨rfl, -⟩ := List.cons.inj same
    rcases numeral with rfl | isDigit
    · exact minus rfl
    · rw [isDigit] at digit
      cases digit
  exact scan?.eq_12 _ (List.cons_ne_nil _ _) (other (by decide) rfl) (other (by decide) rfl)
    (other (by decide) rfl) (other (by decide) rfl) (other (by decide) rfl) (other (by decide) rfl)
    (other (by decide) rfl) (other (by decide) rfl) (other (by decide) rfl) (other (by decide) rfl)

def isNumber : Token → Bool
  | number _ => true
  | _ => false

/-- A token is found again in its word; behind a number nothing may go on with it. -/
theorem scan?_of_word (isWord : token.Word word)
    (ended : token.isNumber = true → Numeral.Ended rest) :
    scan? (word ++ rest) = some (token, rest) := by
  cases isWord with
  | number isWord =>
    have scanned := Numeral.scan?_of_word isWord (ended rfl)
    obtain ⟨first, later, rfl, start⟩ := isWord.starts
    rw [List.cons_append] at scanned ⊢
    rw [scan?_of_numeral start, scanned]
    rfl
  | text isWord =>
    rw [List.cons_append, List.append_assoc, List.singleton_append, scan?,
      scanPieces?_of_word isWord]
    rfl
  | _ => rfl

theorem afterWord?_spec {expected : List Char}
    (found : afterWord? expected characters = some rest) : characters = expected ++ rest := by
  induction expected generalizing characters with
  | nil => exact Option.some.inj found
  | cons first later inductionHypothesis =>
    cases characters with
    | nil => cases found
    | cons character others =>
      rw [afterWord?] at found
      split at found
      · rename_i same
        rw [same, inductionHypothesis found]
        rfl
      · cases found

/-- The scanner finds tokens in their words only. -/
theorem exists_word_of_scan? (scanned : scan? characters = some (token, rest)) :
    ∃ word, characters = word ++ rest ∧ token.Word word := by
  have keyword {first : Char} {expected later : List Char} {result : Token}
      (isWord : result.Word (first :: expected))
      (found : (afterWord? expected later).map (result, ·) = some (token, rest)) :
      ∃ word, first :: later = word ++ rest ∧ token.Word word := by
    obtain ⟨after, behind, same⟩ := Option.map_eq_some_iff.mp found
    obtain ⟨rfl, rfl⟩ := Prod.mk.inj same
    exact ⟨_, congrArg (first :: ·) (afterWord?_spec behind), isWord⟩
  unfold scan? at scanned
  split at scanned
  · cases scanned
  · cases scanned
    exact ⟨_, rfl, .openArray⟩
  · cases scanned
    exact ⟨_, rfl, .closeArray⟩
  · cases scanned
    exact ⟨_, rfl, .openObject⟩
  · cases scanned
    exact ⟨_, rfl, .closeObject⟩
  · cases scanned
    exact ⟨_, rfl, .colon⟩
  · cases scanned
    exact ⟨_, rfl, .comma⟩
  · exact keyword .null scanned
  · exact keyword .yes scanned
  · exact keyword .no scanned
  · obtain ⟨⟨pieces, after⟩, found, same⟩ := Option.map_eq_some_iff.mp scanned
    obtain ⟨rfl, rfl⟩ := Prod.mk.inj same
    obtain ⟨word, rfl, isWord⟩ := exists_word_of_scanPieces? found
    refine ⟨_, ?_, .text isWord⟩
    rw [List.cons_append, List.append_assoc, List.singleton_append]
  · obtain ⟨⟨numeral, after⟩, found, same⟩ := Option.map_eq_some_iff.mp scanned
    obtain ⟨rfl, rfl⟩ := Prod.mk.inj same
    obtain ⟨word, rfl, isWord⟩ := Numeral.exists_word_of_scan? found
    exact ⟨word, rfl, .number isWord⟩

/-! ### Texts -/

/-- The tokens that may follow a number. -/
def isDelimiter : Token → Bool
  | comma | closeArray | closeObject => true
  | _ => false

/-- Whether every number among tokens is followed by a delimiter or nothing. -/
def Separate (tokens : List Token) : Prop :=
  tokens.IsChain fun token next => token.isNumber = true → next.isDelimiter = true

theorem ended_of_spells (spells : Spells tokens rest)
    (delimited : ∀ next ∈ tokens.head?, next.isDelimiter = true) : Numeral.Ended rest := by
  have endsAtBlank {blanks : List Char} (blank : AreBlank blanks) (others : List Char)
      (some : blanks ≠ []) : Numeral.Ended (blanks ++ others) := by
    obtain ⟨first, later, rfl⟩ := List.exists_cons_of_ne_nil some
    intro character member
    obtain rfl := Option.some.inj member
    have isBlank := blank first List.mem_cons_self
    simp only [Token.isBlank, Bool.or_eq_true, decide_eq_true_eq] at isBlank
    rcases isBlank with ((rfl | rfl) | rfl) | rfl <;> decide
  cases spells with
  | nil blank =>
    cases rest with
    | nil => exact fun first member => nomatch member
    | cons first later =>
      have ends := endsAtBlank blank [] (List.cons_ne_nil _ _)
      rwa [List.append_nil] at ends
  | @cons token tokens blanks word others blank isWord later =>
    cases blanks with
    | cons first more => exact endsAtBlank blank _ (List.cons_ne_nil _ _)
    | nil =>
      have delimiter := delimited token rfl
      cases isWord with
      | comma | closeArray | closeObject =>
        intro character member
        obtain rfl := Option.some.inj member
        decide
      | _ => cases delimiter

theorem go_of_spells (spells : Spells tokens characters) (separate : Separate tokens) {fuel : Nat}
    (enough : characters.length ≤ fuel) :
    scanAll.go fuel (characters.dropWhile isBlank) = tokens := by
  induction spells generalizing fuel with
  | nil blank =>
    have none := dropWhile_blanks blank []
    rw [List.append_nil] at none
    rw [none]
    cases fuel <;> rfl
  | @cons token tokens blanks word rest blank isWord later inductionHypothesis =>
    obtain ⟨next, separate⟩ := List.isChain_cons.mp separate
    rw [dropWhile_blanks blank, isWord.dropWhile]
    have scanned : scan? (word ++ rest) = some (token, rest) :=
      scan?_of_word isWord fun number =>
        ended_of_spells later fun first member => next first member number
    obtain ⟨first, others, rfl, -⟩ := isWord.starts
    rw [List.length_append, List.length_append, List.length_cons] at enough
    obtain ⟨fuel, rfl⟩ : ∃ fewer, fuel = fewer + 1 := ⟨fuel - 1, by omega⟩
    have others : scanAll.go fuel (rest.dropWhile isBlank) = tokens :=
      inductionHypothesis separate (by omega)
    rw [List.cons_append] at scanned ⊢
    rw [scanAll.go.eq_3 _ _ (List.cons_ne_nil _ _), scanned]
    exact congrArg (token :: ·) others

theorem spells_of_go {fuel : Nat} (whole : .malformed ∉ scanAll.go fuel characters) :
    Spells (scanAll.go fuel characters) characters := by
  induction fuel generalizing characters with
  | zero =>
    cases characters with
    | nil => exact .nil areBlank_nil
    | cons first later => exact absurd List.mem_cons_self whole
  | succ fuel inductionHypothesis =>
    cases characters with
    | nil => exact .nil areBlank_nil
    | cons first later =>
      rw [scanAll.go.eq_3 _ _ (List.cons_ne_nil _ _)] at whole ⊢
      cases scanned : scan? (first :: later) with
      | none =>
        rw [scanned] at whole
        exact absurd List.mem_cons_self whole
      | some found =>
        obtain ⟨token, rest⟩ := found
        rw [scanned] at whole
        obtain ⟨word, same, isWord⟩ := exists_word_of_scan? scanned
        have later := inductionHypothesis fun member => whole (List.mem_cons_of_mem _ member)
        rw [same]
        exact .prepend isWord later.of_dropWhile

/-- The scanner finds the tokens of a text in which numbers are followed by delimiters. -/
theorem scanAll_of_spells (spells : Spells tokens characters) (separate : Separate tokens) :
    scanAll characters = tokens :=
  go_of_spells spells separate (Nat.le_refl _)

/-- What the scanner finds without a fault are the tokens of the text. -/
theorem spells_of_scanAll (whole : .malformed ∉ scanAll characters) :
    Spells (scanAll characters) characters :=
  (spells_of_go whole).of_dropWhile

end

end Token

/-! ### Values -/

namespace Value

mutual

/-- Whether a value is whole: nothing of it broke off, and its strings denote texts. -/
def IsComplete : Value → Prop
  | null | bool _ | number _ => True
  | text value => value.isSome
  | array items closed => closed = true ∧ AreComplete items
  | object members closed => closed = true ∧ AreCompleteMembers members
  | malformed => False

def AreComplete : List Value → Prop
  | [] => True
  | item :: rest => item.IsComplete ∧ AreComplete rest

def AreCompleteMembers : List (Option String × Value) → Prop
  | [] => True
  | (key, value) :: rest => key.isSome ∧ value.IsComplete ∧ AreCompleteMembers rest

end

mutual

/-- The tokens of the text of a value. -/
def tokens : Value → List Token
  | null => [.null]
  | bool value => [.bool value]
  | number numeral => [.number numeral]
  | text value => [.text value]
  | array items _ => .openArray :: itemTokens items
  | object members _ => .openObject :: memberTokens members
  | malformed => []

/-- The tokens of the items of an array and its end. -/
def itemTokens : List Value → List Token
  | [] => [.closeArray]
  | [item] => item.tokens ++ [.closeArray]
  | item :: next :: rest => item.tokens ++ .comma :: itemTokens (next :: rest)

/-- The tokens of the members of an object and its end. -/
def memberTokens : List (Option String × Value) → List Token
  | [] => [.closeObject]
  | [(key, value)] => .text key :: .colon :: value.tokens ++ [.closeObject]
  | (key, value) :: next :: rest =>
    .text key :: .colon :: value.tokens ++ .comma :: memberTokens (next :: rest)

end

open Token

/-! ### Values as they are written -/

theorem spells_text (text : String) {tokens : List Token} {rest : List Char}
    (later : Spells tokens rest) :
    Spells (.text (some text) :: tokens) (writtenText text ++ rest) := by
  have word := Word.text (piecesWord_written text.toList)
  rw [textOf?_pieceOf] at word
  exact .prepend word later

mutual

theorem spells_written : (value : Value) → value.IsComplete → ∀ {tokens rest}, Spells tokens rest →
    Spells (value.tokens ++ tokens) (value.written ++ rest)
  | null, _, _, _, later => .prepend .null later
  | bool true, _, _, _, later => .prepend .yes later
  | bool false, _, _, _, later => .prepend .no later
  | number numeral, _, _, _, later => .prepend (.number numeral.word_written) later
  | text (some value), _, _, _, later => spells_text value later
  | array items true, complete, tokens, rest, later => by
    rw [written, List.cons_append, List.cons_append, List.append_assoc, Value.tokens]
    exact .mark .openArray (spells_items items complete.2 later)
  | object members true, complete, tokens, rest, later => by
    rw [written, List.cons_append, List.cons_append, List.append_assoc, Value.tokens]
    exact .mark .openObject (spells_members members complete.2 later)

theorem spells_items : (items : List Value) → AreComplete items → ∀ {tokens rest},
    Spells tokens rest → Spells (itemTokens items ++ tokens) (writtenItems items ++ ']' :: rest)
  | [], _, _, _, later => .mark .closeArray later
  | [item], complete, _, _, later => by
    rw [itemTokens, List.append_assoc]
    exact spells_written item complete.1 (.mark .closeArray later)
  | item :: next :: others, complete, _, _, later => by
    rw [writtenItems, itemTokens, List.append_assoc, List.append_assoc]
    exact spells_written item complete.1
      (.mark .comma (spells_items (next :: others) complete.2 later))

theorem spells_members : (members : List (Option String × Value)) → AreCompleteMembers members →
    ∀ {tokens rest}, Spells tokens rest →
      Spells (memberTokens members ++ tokens) (writtenMembers members ++ '\x7d' :: rest)
  | [], _, _, _, later => .mark .closeObject later
  | [(some key, value)], complete, _, _, later => by
    simp only [writtenMembers, memberTokens, List.append_assoc, List.cons_append]
    exact spells_text key (.mark .colon
      (spells_written value complete.2.1 (.mark .closeObject later)))
  | (some key, value) :: next :: others, complete, _, _, later => by
    simp only [writtenMembers, memberTokens, List.append_assoc, List.cons_append]
    exact spells_text key (.mark .colon (spells_written value complete.2.1
      (.mark .comma (spells_members (next :: others) complete.2.2 later))))

end

/-! ### What stands behind numbers -/

theorem separate_cons {token : Token} {tokens : List Token} (other : token.isNumber = false)
    (later : Separate tokens) : Separate (token :: tokens) :=
  List.isChain_cons.mpr ⟨fun _ _ number => absurd number (other ▸ Bool.false_ne_true), later⟩

mutual

theorem separate_tokens : (value : Value) → ∀ {tokens : List Token}, Separate tokens →
    (∀ next ∈ tokens.head?, next.isDelimiter = true) → Separate (value.tokens ++ tokens)
  | null, _, later, _ => separate_cons rfl later
  | bool _, _, later, _ => separate_cons rfl later
  | text _, _, later, _ => separate_cons rfl later
  | number _, _, later, delimited =>
    List.isChain_cons.mpr ⟨fun next member _ => delimited next member, later⟩
  | array items _, _, later, _ => separate_cons rfl (separate_items items later)
  | object members _, _, later, _ => separate_cons rfl (separate_members members later)
  | malformed, _, later, _ => later

theorem separate_items : (items : List Value) → ∀ {tokens : List Token}, Separate tokens →
    Separate (itemTokens items ++ tokens)
  | [], _, later => separate_cons rfl later
  | [item], _, later => by
    rw [itemTokens, List.append_assoc]
    exact separate_tokens item (separate_cons rfl later) (by rintro _ ⟨⟩; rfl)
  | item :: next :: others, _, later => by
    rw [itemTokens, List.append_assoc]
    exact separate_tokens item (separate_cons rfl (separate_items (next :: others) later))
      (by rintro _ ⟨⟩; rfl)

theorem separate_members : (members : List (Option String × Value)) → ∀ {tokens : List Token},
    Separate tokens → Separate (memberTokens members ++ tokens)
  | [], _, later => separate_cons rfl later
  | [(key, value)], _, later => by
    simp only [memberTokens, List.append_assoc, List.cons_append]
    exact separate_cons rfl (separate_cons rfl
      (separate_tokens value (separate_cons rfl later) (by rintro _ ⟨⟩; rfl)))
  | (key, value) :: next :: others, _, later => by
    simp only [memberTokens, List.append_assoc, List.cons_append]
    exact separate_cons rfl (separate_cons rfl (separate_tokens value
      (separate_cons rfl (separate_members (next :: others) later)) (by rintro _ ⟨⟩; rfl)))

end

/-- The scanner finds the tokens of a value in every text that consists of them. -/
theorem scanAll_tokens {value : Value} {characters : List Char}
    (spells : Spells value.tokens characters) : scanAll characters = value.tokens := by
  have separate : Separate (value.tokens ++ []) :=
    separate_tokens value .nil fun _ member => nomatch member
  rw [List.append_nil] at separate
  exact scanAll_of_spells spells separate

end Value

end ServerMonitor.Json
