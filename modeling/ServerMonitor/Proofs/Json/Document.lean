/-
This file states which value is read from a text: the one whose tokens the text
consists of. The reader takes the tokens of a value where a value may stand and is
then behind that value, with the same enclosures open; so nothing inside a value is
taken for a part of what is around it. Conversely what the reader has finished
consists of the tokens that it took, and what broke off can be told from a value.
-/

import ServerMonitor.Json.Document
import ServerMonitor.Proofs.Json.Token

namespace ServerMonitor.Json

/-- One token that the reader accepts. -/
theorem readValue_of_step {token : Token} {expecting next : Expecting}
    {enclosures inner : List Enclosure}
    (taken : step token expecting enclosures = some (next, inner)) (rest : List Token) :
    readValue expecting enclosures (token :: rest) = readValue next inner rest := by
  have inside (finished : Value) (done : expecting = .separator finished) :
      enclosures = [] → False := by
    rintro rfl
    rw [done] at taken
    cases taken
  rw [readValue.eq_3 _ _ _ _ inside, taken]

namespace Value

/-! ### Whole values -/

mutual

/-- Whether nothing of a value broke off. Its strings need not denote texts. -/
def IsWhole : Value → Prop
  | null | bool _ | number _ | text _ => True
  | array items closed => closed = true ∧ AreWhole items
  | object members closed => closed = true ∧ AreWholeMembers members
  | malformed => False

def AreWhole : List Value → Prop
  | [] => True
  | item :: rest => item.IsWhole ∧ AreWhole rest

def AreWholeMembers : List (Option String × Value) → Prop
  | [] => True
  | (_, value) :: rest => value.IsWhole ∧ AreWholeMembers rest

end

mutual

theorem isWhole_of_isComplete : {value : Value} → value.IsComplete → value.IsWhole
  | null, _ | bool _, _ | number _, _ | text _, _ => trivial
  | array _ _, complete => ⟨complete.1, areWhole_of_areComplete complete.2⟩
  | object _ _, complete => ⟨complete.1, areWholeMembers_of_areCompleteMembers complete.2⟩

theorem areWhole_of_areComplete : {items : List Value} → AreComplete items → AreWhole items
  | [], _ => trivial
  | _ :: _, complete => ⟨isWhole_of_isComplete complete.1, areWhole_of_areComplete complete.2⟩

theorem areWholeMembers_of_areCompleteMembers : {members : List (Option String × Value)} →
    AreCompleteMembers members → AreWholeMembers members
  | [], _ => trivial
  | _ :: _, complete =>
    ⟨isWhole_of_isComplete complete.2.1, areWholeMembers_of_areCompleteMembers complete.2.2⟩

end

theorem areWhole_iff {items : List Value} : AreWhole items ↔ ∀ item ∈ items, item.IsWhole := by
  induction items with
  | nil => exact iff_of_true trivial (List.forall_mem_nil _)
  | cons item rest inductionHypothesis =>
    rw [AreWhole, inductionHypothesis, List.forall_mem_cons]

theorem areWholeMembers_iff {members : List (Option String × Value)} :
    AreWholeMembers members ↔ ∀ member ∈ members, member.2.IsWhole := by
  induction members with
  | nil => exact iff_of_true trivial (List.forall_mem_nil _)
  | cons member rest inductionHypothesis =>
    rw [AreWholeMembers, inductionHypothesis, List.forall_mem_cons]

/-! ### Tokens are read -/

/-- The first item of an array is read like any other. -/
theorem readValue_firstItem {item : Value} (whole : item.IsWhole) (others : List Value)
    (enclosures : List Enclosure) (rest : List Token) :
    readValue .firstItem enclosures (itemTokens (item :: others) ++ rest) =
      readValue .value (.array [] :: enclosures) (itemTokens (item :: others) ++ rest) := by
  obtain ⟨later, tokens⟩ : ∃ later, itemTokens (item :: others) = item.tokens ++ later := by
    cases others <;> exact ⟨_, rfl⟩
  rw [tokens, List.append_assoc]
  cases item with
  | malformed => exact whole.elim
  | null | bool | number | text | array | object =>
    exact (readValue_of_step rfl _).trans (readValue_of_step rfl _).symm

/-- The first key of an object is read like any other. -/
theorem readValue_firstKey (member : Option String × Value)
    (others : List (Option String × Value)) (enclosures : List Enclosure) (rest : List Token) :
    readValue .firstKey enclosures (memberTokens (member :: others) ++ rest) =
      readValue (.key []) enclosures (memberTokens (member :: others) ++ rest) := by
  cases others <;> exact (readValue_of_step rfl _).trans (readValue_of_step rfl _).symm

mutual

/-- Behind the tokens of a value the reader has finished that value. -/
theorem readValue_tokens : (value : Value) → value.IsWhole →
    ∀ (enclosures : List Enclosure) (rest : List Token),
      readValue .value enclosures (value.tokens ++ rest) =
        readValue (.separator value) enclosures rest
  | null, _, _, rest => readValue_of_step rfl rest
  | bool _, _, _, rest => readValue_of_step rfl rest
  | number _, _, _, rest => readValue_of_step rfl rest
  | text _, _, _, rest => readValue_of_step rfl rest
  | array [] true, _, _, rest =>
    (readValue_of_step rfl _).trans (readValue_of_step rfl rest)
  | array (item :: others) true, whole, enclosures, rest =>
    (readValue_of_step rfl _).trans ((readValue_firstItem whole.2.1 others enclosures rest).trans
      (readValue_items (item :: others) nofun whole.2 [] enclosures rest))
  | object [] true, _, _, rest =>
    (readValue_of_step rfl _).trans (readValue_of_step rfl rest)
  | object (member :: others) true, whole, enclosures, rest =>
    (readValue_of_step rfl _).trans ((readValue_firstKey member others enclosures rest).trans
      (readValue_members (member :: others) nofun whole.2 [] enclosures rest))

theorem readValue_items : (items : List Value) → items ≠ [] → AreWhole items →
    ∀ (past : List Value) (enclosures : List Enclosure) (rest : List Token),
      readValue .value (.array past :: enclosures) (itemTokens items ++ rest) =
        readValue (.separator (.array (past.reverse ++ items) true)) enclosures rest
  | [item], _, whole, past, enclosures, rest => by
    rw [itemTokens, List.append_assoc, readValue_tokens item whole.1]
    refine (readValue_of_step rfl rest).trans ?_
    rw [List.reverse_cons]
  | item :: next :: others, _, whole, past, enclosures, rest => by
    rw [itemTokens, List.append_assoc, readValue_tokens item whole.1]
    refine (readValue_of_step rfl _).trans
      ((readValue_items (next :: others) nofun whole.2 _ enclosures rest).trans ?_)
    rw [List.reverse_cons, List.append_assoc]
    rfl

theorem readValue_members : (members : List (Option String × Value)) → members ≠ [] →
    AreWholeMembers members →
    ∀ (past : List (Option String × Value)) (enclosures : List Enclosure) (rest : List Token),
      readValue (.key past) enclosures (memberTokens members ++ rest) =
        readValue (.separator (.object (past.reverse ++ members) true)) enclosures rest
  | [(key, value)], _, whole, past, enclosures, rest => by
    rw [memberTokens, List.append_assoc]
    refine (readValue_of_step rfl _).trans ((readValue_of_step rfl _).trans
      ((readValue_tokens value whole.1 _ _).trans ((readValue_of_step rfl rest).trans ?_)))
    rw [List.reverse_cons]
  | (key, value) :: next :: others, _, whole, past, enclosures, rest => by
    rw [memberTokens, List.append_assoc]
    refine (readValue_of_step rfl _).trans ((readValue_of_step rfl _).trans
      ((readValue_tokens value whole.1 _ _).trans ((readValue_of_step rfl _).trans
        ((readValue_members (next :: others) nofun whole.2 _ enclosures rest).trans ?_))))
    rw [List.reverse_cons, List.append_assoc]
    rfl

end

end Value

/-! ### What was read consists of tokens -/

/-- The tokens of members that were read, each with the comma behind it. -/
def memberTokensRead (members : List (Option String × Value)) : List Token :=
  members.flatMap fun member => .text member.1 :: .colon :: (member.2.tokens ++ [.comma])

/-- The tokens of an open enclosure up to its current value. -/
def Enclosure.tokens : Enclosure → List Token
  | .array items => .openArray :: items.reverse.flatMap fun item => item.tokens ++ [.comma]
  | .object members key =>
    .openObject :: (memberTokensRead members.reverse ++ [.text key, .colon])

/-- The tokens that were taken since the innermost enclosure was opened. -/
def Expecting.tokens : Expecting → List Token
  | .value => []
  | .firstItem => [.openArray]
  | .firstKey => [.openObject]
  | .key members => .openObject :: memberTokensRead members.reverse
  | .colon members latest => .openObject :: (memberTokensRead members.reverse ++ [.text latest])
  | .separator finished => finished.tokens

/-- All tokens that were taken. -/
def tokensRead (expecting : Expecting) (enclosures : List Enclosure) : List Token :=
  enclosures.reverse.flatMap Enclosure.tokens ++ expecting.tokens

def Enclosure.IsWhole : Enclosure → Prop
  | .array items => ∀ item ∈ items, item.IsWhole
  | .object members _ => ∀ member ∈ members, member.2.IsWhole

def Expecting.IsWhole : Expecting → Prop
  | .value | .firstItem | .firstKey => True
  | .key members | .colon members _ => ∀ member ∈ members, member.2.IsWhole
  | .separator finished => finished.IsWhole

/-- What is left of a value that broke off can be told from a value. -/
def Value.isOpen : Value → Bool
  | .malformed | .array _ false | .object _ false => true
  | _ => false

theorem Value.isOpen_of_isWhole {value : Value} (whole : value.IsWhole) : value.isOpen = false := by
  cases value with
  | malformed => exact whole.elim
  | array items closed | object members closed =>
    obtain rfl : closed = true := whole.1
    rfl
  | null | bool | number | text => rfl

theorem isOpen_abandonAll {inner : Value} (isOpen : inner.isOpen = true)
    (enclosures : List Enclosure) : (abandonAll inner enclosures).isOpen = true := by
  induction enclosures generalizing inner with
  | nil => exact isOpen
  | cons enclosure outer inductionHypothesis =>
    exact inductionHypothesis (by cases enclosure <;> rfl)

theorem itemTokens_concat (items : List Value) (last : Value) :
    Value.itemTokens (items ++ [last]) =
      (items.flatMap fun item => item.tokens ++ [.comma]) ++ (last.tokens ++ [.closeArray]) := by
  induction items with
  | nil => rfl
  | cons item rest inductionHypothesis =>
    rw [List.flatMap_cons, List.append_assoc, ← inductionHypothesis]
    cases rest <;> simp [Value.itemTokens]

theorem memberTokens_concat (members : List (Option String × Value)) (key : Option String)
    (last : Value) :
    Value.memberTokens (members ++ [(key, last)]) =
      memberTokensRead members ++ (.text key :: .colon :: (last.tokens ++ [.closeObject])) := by
  induction members with
  | nil => rfl
  | cons member rest inductionHypothesis =>
    rw [memberTokensRead, List.flatMap_cons, ← memberTokensRead, List.append_assoc,
      ← inductionHypothesis]
    cases rest <;> simp [Value.memberTokens]

section Step

variable {token : Token} {expecting next : Expecting} {enclosures inner : List Enclosure}

theorem tokensRead_cons (expecting : Expecting) (enclosure : Enclosure)
    (outer : List Enclosure) :
    tokensRead expecting (enclosure :: outer) =
      outer.reverse.flatMap Enclosure.tokens ++ (enclosure.tokens ++ expecting.tokens) := by
  rw [tokensRead, List.reverse_cons, List.flatMap_append, List.flatMap_singleton,
    List.append_assoc]

theorem tokens_startValue (started : startValue token enclosures = some (next, inner)) :
    inner = enclosures ∧ next.tokens = [token] ∧ next.IsWhole := by
  cases token <;> cases started <;>
    simp [Expecting.tokens, Expecting.IsWhole, Value.tokens, Value.IsWhole]

/-- What follows a finished value goes on with its enclosure or finishes that. -/
theorem tokens_afterValue {finished : Value} {enclosure : Enclosure} {outer : List Enclosure}
    (taken : afterValue finished token enclosure outer = some (next, inner))
    (whole : finished.IsWhole) (own : enclosure.IsWhole)
    (wholes : ∀ enclosure ∈ outer, enclosure.IsWhole) :
    tokensRead next inner = outer.reverse.flatMap Enclosure.tokens ++
        (enclosure.tokens ++ (finished.tokens ++ [token])) ∧ next.IsWhole ∧
      ∀ enclosure ∈ inner, enclosure.IsWhole := by
  rw [afterValue.eq_def] at taken
  split at taken
  · rename_i items
    cases taken
    have more : (Enclosure.array (finished :: items)).IsWhole :=
      List.forall_mem_cons.mpr ⟨whole, own⟩
    refine ⟨?_, trivial, List.forall_mem_cons.mpr ⟨more, wholes⟩⟩
    rw [tokensRead_cons]
    simp [Enclosure.tokens, Expecting.tokens]
  · rename_i items
    cases taken
    have all : ∀ item ∈ (finished :: items).reverse, item.IsWhole := fun item member =>
      List.forall_mem_cons.mpr ⟨whole, own⟩ item (List.mem_reverse.mp member)
    refine ⟨?_, ⟨rfl, Value.areWhole_iff.mpr all⟩, wholes⟩
    rw [tokensRead, Expecting.tokens, List.reverse_cons, Value.tokens, itemTokens_concat]
    rfl
  · rename_i members key
    cases taken
    have more : (Expecting.key ((key, finished) :: members)).IsWhole :=
      List.forall_mem_cons.mpr ⟨whole, own⟩
    refine ⟨?_, more, wholes⟩
    simp [tokensRead, Enclosure.tokens, Expecting.tokens, memberTokensRead]
  · rename_i members key
    cases taken
    have more : ∀ member ∈ (key, finished) :: members, member.2.IsWhole :=
      List.forall_mem_cons.mpr ⟨whole, own⟩
    have all : ∀ member ∈ ((key, finished) :: members).reverse, member.2.IsWhole :=
      fun member found => more member (List.mem_reverse.mp found)
    refine ⟨?_, ⟨rfl, Value.areWholeMembers_iff.mpr all⟩, wholes⟩
    rw [tokensRead, Expecting.tokens, List.reverse_cons, Value.tokens, memberTokens_concat]
    simp [Enclosure.tokens]
  · cases taken

/-- A step takes one token and keeps what was finished whole. -/
theorem tokensRead_step (taken : step token expecting enclosures = some (next, inner))
    (whole : expecting.IsWhole) (wholes : ∀ enclosure ∈ enclosures, enclosure.IsWhole) :
    tokensRead next inner = tokensRead expecting enclosures ++ [token] ∧ next.IsWhole ∧
      ∀ enclosure ∈ inner, enclosure.IsWhole := by
  cases expecting with
  | value =>
    obtain ⟨rfl, tokens, wholeNext⟩ := tokens_startValue taken
    refine ⟨?_, wholeNext, wholes⟩
    rw [tokensRead, tokensRead, tokens, Expecting.tokens, List.append_nil]
  | firstItem =>
    rw [step] at taken
    split at taken
    · rename_i closes
      cases taken
      subst closes
      refine ⟨?_, ⟨rfl, trivial⟩, wholes⟩
      simp [tokensRead, Expecting.tokens, Value.tokens, Value.itemTokens]
    · obtain ⟨rfl, tokens, wholeNext⟩ := tokens_startValue taken
      refine ⟨?_, wholeNext, List.forall_mem_cons.mpr ⟨List.forall_mem_nil _, wholes⟩⟩
      rw [tokensRead_cons, tokensRead, tokens, List.append_assoc]
      simp [Enclosure.tokens, Expecting.tokens]
  | firstKey =>
    cases token with
    | closeObject =>
      cases taken
      refine ⟨?_, ⟨rfl, trivial⟩, wholes⟩
      simp [tokensRead, Expecting.tokens, Value.tokens, Value.memberTokens]
    | text key =>
      cases taken
      refine ⟨?_, List.forall_mem_nil _, wholes⟩
      simp [tokensRead, Expecting.tokens, memberTokensRead]
    | _ => cases taken
  | key members =>
    cases token with
    | text key =>
      cases taken
      refine ⟨?_, whole, wholes⟩
      simp [tokensRead, Expecting.tokens]
    | _ => cases taken
  | colon members key =>
    rw [step] at taken
    split at taken
    · rename_i colon
      cases taken
      subst colon
      refine ⟨?_, trivial, List.forall_mem_cons.mpr ⟨whole, wholes⟩⟩
      rw [tokensRead_cons, tokensRead, List.append_assoc]
      simp [Enclosure.tokens, Expecting.tokens]
    · cases taken
  | separator finished =>
    cases enclosures with
    | nil => cases taken
    | cons enclosure outer =>
      obtain ⟨own, wholes⟩ := List.forall_mem_cons.mp wholes
      obtain ⟨tokens, wholeNext, wholesInner⟩ := tokens_afterValue taken whole own wholes
      refine ⟨?_, wholeNext, wholesInner⟩
      rw [tokens, tokensRead_cons, List.append_assoc, List.append_assoc]
      rfl

end Step

/-- Where the reader stops it has finished a whole value, or what it has broke off. -/
theorem remains_spec {expecting : Expecting} {enclosures : List Enclosure}
    (whole : expecting.IsWhole) :
    (remains expecting enclosures).isOpen = true ∨
      (remains expecting enclosures).IsWhole ∧
        tokensRead expecting enclosures = (remains expecting enclosures).tokens := by
  cases expecting with
  | value | firstItem | firstKey | key | colon => exact .inl (isOpen_abandonAll rfl enclosures)
  | separator finished =>
    cases enclosures with
    | nil => exact .inr ⟨whole, rfl⟩
    | cons enclosure outer => cases enclosure <;> exact .inl (isOpen_abandonAll rfl outer)

/-- One token that the reader does not accept. -/
theorem readValue_of_stop {token : Token} {expecting : Expecting} {enclosures : List Enclosure}
    (stops : step token expecting enclosures = none) (rest : List Token) :
    readValue expecting enclosures (token :: rest) =
      (remains expecting enclosures, token :: rest) := by
  unfold readValue
  split
  · rfl
  · rw [stops]

/-- What was read is whole and consists of the tokens that were taken, or it broke off. -/
theorem readValue_spec (expecting : Expecting) (enclosures : List Enclosure) (tokens : List Token)
    (whole : expecting.IsWhole) (wholes : ∀ enclosure ∈ enclosures, enclosure.IsWhole) :
    (readValue expecting enclosures tokens).1.isOpen = true ∨
      (readValue expecting enclosures tokens).1.IsWhole ∧
        tokensRead expecting enclosures ++ tokens =
          (readValue expecting enclosures tokens).1.tokens ++
            (readValue expecting enclosures tokens).2 := by
  induction tokens generalizing expecting enclosures with
  | nil => exact (remains_spec whole).imp_right fun spec => ⟨spec.1, congrArg (· ++ []) spec.2⟩
  | cons token rest inductionHypothesis =>
    cases taken : step token expecting enclosures with
    | some next =>
      obtain ⟨next, inner⟩ := next
      obtain ⟨tokens, wholeNext, wholesInner⟩ := tokensRead_step taken whole wholes
      have later := inductionHypothesis next inner wholeNext wholesInner
      rwa [tokens, List.append_assoc, ← readValue_of_step taken] at later
    | none =>
      rw [readValue_of_stop taken]
      exact (remains_spec whole).imp_right fun spec => ⟨spec.1, congrArg (· ++ _) spec.2⟩

/-! ### Texts -/

namespace Value

mutual

theorem malformed_notMem_tokens : (value : Value) → .malformed ∉ value.tokens
  | null | bool _ | number _ | text _ => by simp [tokens]
  | malformed => List.not_mem_nil
  | array items _ => by simpa [tokens] using malformed_notMem_itemTokens items
  | object members _ => by simpa [tokens] using malformed_notMem_memberTokens members

theorem malformed_notMem_itemTokens : (items : List Value) → .malformed ∉ itemTokens items
  | [] => by simp [itemTokens]
  | [item] => by simpa [itemTokens] using malformed_notMem_tokens item
  | item :: next :: rest => by
    simpa [itemTokens] using
      ⟨malformed_notMem_tokens item, malformed_notMem_itemTokens (next :: rest)⟩

theorem malformed_notMem_memberTokens : (members : List (Option String × Value)) →
    .malformed ∉ memberTokens members
  | [] => by simp [memberTokens]
  | [(_, value)] => by simpa [memberTokens] using malformed_notMem_tokens value
  | (_, value) :: next :: rest => by
    simpa [memberTokens] using
      ⟨malformed_notMem_tokens value, malformed_notMem_memberTokens (next :: rest)⟩

end

/-- A text holds a whole value and nothing else if it consists of the tokens of that value. -/
theorem readWhole_eq_iff {value : Value} (whole : value.IsWhole) {text : String} :
    readWhole text = (value, true) ↔ Token.Spells value.tokens text.toList := by
  constructor
  · intro read
    obtain ⟨first, complete⟩ := Prod.mk.inj read
    have none : (readValue .value [] (Token.scanAll text.toList)).2 = [] :=
      List.isEmpty_iff.mp complete
    rcases readValue_spec .value [] (Token.scanAll text.toList) trivial
      (List.forall_mem_nil _) with isOpen | ⟨-, tokens⟩
    · rw [first, isOpen_of_isWhole whole] at isOpen
      cases isOpen
    · rw [first, none, List.append_nil] at tokens
      have scanned : Token.scanAll text.toList = value.tokens := tokens
      have spells := Token.spells_of_scanAll (scanned ▸ malformed_notMem_tokens value)
      rwa [scanned] at spells
  · intro spells
    have read := readValue_tokens value whole [] []
    rw [List.append_nil] at read
    rw [readWhole, scanAll_tokens spells, read]
    rfl

/-- What is read from a whole text is a whole value, or it broke off. -/
theorem isWhole_of_readWhole {text : String} {value : Value} {complete : Bool}
    (read : readWhole text = (value, complete)) (closed : value.isOpen = false) :
    value.IsWhole := by
  obtain ⟨rfl, -⟩ := Prod.mk.inj read
  rcases readValue_spec .value [] (Token.scanAll text.toList) trivial
    (List.forall_mem_nil _) with isOpen | ⟨whole, -⟩
  · cases closed.symm.trans isOpen
  · exact whole

/-- A value without faults is read back from its text. -/
theorem readWhole_render {value : Value} (complete : value.IsComplete) :
    readWhole value.render = (value, true) := by
  have spells := spells_written value complete (.nil Token.areBlank_nil)
  rw [List.append_nil, List.append_nil] at spells
  refine (readWhole_eq_iff (isWhole_of_isComplete complete)).mpr ?_
  rwa [render, String.toList_ofList]

end Value

end ServerMonitor.Json
