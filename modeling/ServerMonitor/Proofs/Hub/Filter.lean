/-
This file states what a client can say to change its filter, and what the filter is
after everything it said. A text asks for topics if it spells an object that names
its subscription once, or an array of one item that is the subscription; whatever
else the object holds only has to be whole. Every other text changes nothing, so the
last one that asks decides.
-/

import ServerMonitor.Hub.Filter
import ServerMonitor.Proofs.Json.Schema
import ServerMonitor.Proofs.Text.Order

namespace ServerMonitor

open Json

namespace ControlFrame

/-! ### Subscriptions -/

/-- The value that names topics: null for all of them, or a list of texts. -/
def subscription : Option (List String) → Value
  | none => .null
  | some topics => .ofItems (topics.map .ofText)

/-- The members of an object that name the subscription. -/
def named (members : List (Option String × Value)) : List (Option String × Value) :=
  members.filter fun member => member.1 = some "subscribe"

/-- The values that ask for topics. -/
inductive Asks : Value → Option (List String) → Prop
  /-- All keys denote texts, and exactly one of them names the subscription. -/
  | object {members : List (Option String × Value)} {topics : Option (List String)}
      (keys : ∀ member ∈ members, member.1.isSome = true)
      (once : named members = [(some "subscribe", subscription topics)]) :
      Asks (.object members true) topics
  | array {topics : Option (List String)} : Asks (.array [subscription topics] true) topics

theorem named_cons_own (value : Value) (rest : List (Option String × Value)) :
    named ((some "subscribe", value) :: rest) = (some "subscribe", value) :: named rest :=
  List.filter_cons_of_pos (decide_eq_true rfl)

theorem named_cons_of_ne {key : String} (other : key ≠ "subscribe") (value : Value)
    (rest : List (Option String × Value)) : named ((some key, value) :: rest) = named rest :=
  List.filter_cons_of_neg fun same => other (Option.some.inj (of_decide_eq_true same))

/-! ### What is read -/

/-- The shape of a subscription. -/
abbrev shape : Shape := .optional (.list .text)

theorem readText_eq_ok_iff {value : Value} {text : String} :
    readText value = .ok text ↔ value = .ofText text := by
  refine ⟨fun read => ?_, fun same => same ▸ rfl⟩
  unfold readText at read
  split at read
  · exact Except.ok.inj read ▸ rfl
  · cases read

theorem readItems_eq_ok_iff {values : List Value} {topics : List String} :
    readItems (fun value => Shape.text.read value) values = .ok topics ↔
      values = topics.map .ofText := by
  induction values generalizing topics with
  | nil =>
    rw [readItems, Except.ok.injEq]
    cases topics <;> simp
  | cons value rest inductionHypothesis =>
    constructor
    · intro read
      obtain ⟨topic, first, read⟩ := ok_of_bind read
      obtain ⟨others, later, read⟩ := ok_of_bind read
      obtain rfl := Except.ok.inj read
      rw [readText_eq_ok_iff.mp first, inductionHypothesis.mp later, List.map_cons]
    · intro same
      obtain ⟨topic, others, rfl, rfl, later⟩ := List.map_eq_cons_iff.mp same.symm
      rw [readItems, inductionHypothesis.mpr later.symm]
      rfl

theorem readList_eq_ok_iff {value : Value} {topics : List String} :
    (Shape.list .text).read value = .ok topics ↔ value = .ofItems (topics.map .ofText) := by
  constructor
  · intro read
    cases value with
    | array items closed =>
      rw [Shape.read] at read
      obtain ⟨found, listed, closes⟩ := ok_of_bind read
      cases closed with
      | false => cases closes
      | true =>
        obtain rfl : found = topics := Except.ok.inj closes
        exact congrArg (Value.array · true) (readItems_eq_ok_iff.mp listed)
    | null | bool | number | text | object | malformed => cases read
  · rintro rfl
    rw [Value.ofItems, Shape.read, readItems_eq_ok_iff.mpr rfl]
    rfl

theorem read_eq_ok_iff {value : Value} {topics : Option (List String)} :
    shape.read value = .ok topics ↔ value = subscription topics := by
  constructor
  · intro read
    cases value with
    | null => exact Except.ok.inj read ▸ rfl
    | bool | number | text | array | object | malformed =>
      obtain ⟨texts, listed, rfl⟩ := ok_of_map read
      exact readList_eq_ok_iff.mp listed
  · rintro rfl
    cases topics with
    | none => rfl
    | some topics =>
      have listed := readList_eq_ok_iff.mpr (rfl : Value.ofItems (topics.map .ofText) = _)
      show ((Shape.list .text).read (.ofItems (topics.map .ofText))).map some = _
      rw [listed]
      rfl

/-- The only field of a control frame. -/
abbrev fields : Fields := .optionalField "subscribe" shape .nil

/-- A free slot is filled by a member that names the subscription. -/
theorem readMembers_own_iff {value : Value} {rest : List (Option String × Value)}
    {result : Option (Option (List String))} :
    readMembers (fun slots key value => fields.put slots key value) (none, ())
        ((some "subscribe", value) :: rest) = .ok (result, ()) ↔
      ∃ topics, value = subscription topics ∧
        readMembers (fun slots key value => fields.put slots key value) (some topics, ()) rest =
          .ok (result, ()) := by
  constructor
  · intro read
    obtain ⟨taken, put, read⟩ := ok_of_bind read
    obtain ⟨topics, held, rfl⟩ := ok_of_map put
    exact ⟨topics, read_eq_ok_iff.mp held, read⟩
  · rintro ⟨topics, rfl, read⟩
    rw [readMembers, Fields.put, if_pos rfl, read_eq_ok_iff.mpr rfl]
    exact read

/-- The members of an object fill the slot of the subscription if one of them names it and the slot
is free. -/
theorem readMembers_eq_ok_iff {members : List (Option String × Value)}
    {slot result : Option (Option (List String))} :
    readMembers (fun slots key value => fields.put slots key value) (slot, ()) members =
        .ok (result, ()) ↔
      (∀ member ∈ members, member.1.isSome = true) ∧
        (named members = [] ∧ result = slot ∨
          slot = none ∧ ∃ topics, result = some topics ∧
            named members = [(some "subscribe", subscription topics)]) := by
  induction members generalizing slot with
  | nil =>
    constructor
    · intro read
      obtain rfl := (Prod.mk.inj (Except.ok.inj read)).1
      exact ⟨List.forall_mem_nil _, .inl ⟨rfl, rfl⟩⟩
    · rintro ⟨-, ⟨-, rfl⟩ | ⟨-, topics, -, once⟩⟩
      · rfl
      · cases once
  | cons member rest inductionHypothesis =>
    obtain ⟨key, value⟩ := member
    cases key with
    | none =>
      refine iff_of_false (fun read => ?_) fun given => ?_
      · cases read
      · cases given.1 _ List.mem_cons_self
    | some key =>
      have denotes : (some key, value).1.isSome = true := rfl
      rw [List.forall_mem_cons, and_iff_right denotes]
      by_cases own : key = "subscribe"
      · subst own
        rw [named_cons_own]
        cases slot with
        | some earlier =>
          refine iff_of_false (fun read => ?_) (by simp)
          cases read
        | none =>
          rw [readMembers_own_iff]
          constructor
          · rintro ⟨topics, rfl, read⟩
            obtain ⟨keys, ⟨others, rfl⟩ | ⟨full, -⟩⟩ := inductionHypothesis.mp read
            · exact ⟨keys, .inr ⟨rfl, topics, rfl, congrArg _ others⟩⟩
            · cases full
          · rintro ⟨keys, ⟨nothing, -⟩ | ⟨-, topics, rfl, once⟩⟩
            · cases nothing
            · obtain ⟨same, others⟩ := List.cons.inj once
              exact ⟨topics, (Prod.mk.inj same).2,
                inductionHypothesis.mpr ⟨keys, .inl ⟨others, rfl⟩⟩⟩
      · rw [readMembers, Fields.put, if_neg own, named_cons_of_ne own]
        exact inductionHypothesis

theorem readArray_eq_ok_iff {items : List Value} {closed : Bool} {topics : Option (List String)} :
    fields.readArray closed items = .ok (some topics, ()) ↔
      items = [subscription topics] ∧ closed = true := by
  cases items with
  | nil =>
    refine iff_of_false (fun read => ?_) nofun
    cases closed <;> cases read
  | cons value rest =>
    constructor
    · intro read
      obtain ⟨found, first, read⟩ := ok_of_bind read
      obtain ⟨_, ended, same⟩ := ok_of_map read
      obtain rfl : found = topics := Option.some.inj (Prod.mk.inj same).1
      by_cases atEnd : closed ∧ rest.isEmpty
      · rw [read_eq_ok_iff.mp first, List.isEmpty_iff.mp atEnd.2]
        exact ⟨rfl, atEnd.1⟩
      · cases (if_neg atEnd).symm.trans ended
    · rintro ⟨same, rfl⟩
      obtain ⟨rfl, rfl⟩ := List.cons.inj same
      have held := read_eq_ok_iff.mpr (rfl : subscription topics = _)
      rw [Fields.readArray, held]
      rfl

theorem read_eq_ok_some_iff {value : Value} {topics : Option (List String)} :
    schema.read value = .ok ⟨some topics⟩ ↔ Asks value topics := by
  have parts : schema.read value = .ok ⟨some topics⟩ ↔
      (Shape.record fields).read value = .ok (some topics, ()) := by
    constructor
    · intro read
      obtain ⟨⟨found, _⟩, read, same⟩ := ok_of_map read
      obtain rfl : found = some topics := congrArg ControlFrame.subscribe same
      exact read
    · intro read
      exact congrArg (Except.map schema.ofParts) read
  rw [parts]
  cases value with
  | array items closed =>
    refine readArray_eq_ok_iff.trans ⟨?_, ?_⟩
    · rintro ⟨rfl, rfl⟩
      exact .array
    · rintro ⟨⟩
      exact ⟨rfl, rfl⟩
  | object members closed =>
    rw [Shape.read]
    constructor
    · intro read
      obtain ⟨⟨slot, _⟩, read, closes⟩ := ok_of_bind read
      obtain rfl : closed = true := by
        cases closed with
        | true => rfl
        | false => cases closes
      obtain rfl : slot = some topics := (Prod.mk.inj (Except.ok.inj closes)).1
      obtain ⟨keys, ⟨-, nothing⟩ | ⟨-, _, same, once⟩⟩ := readMembers_eq_ok_iff.mp read
      · cases nothing
      · obtain rfl := Option.some.inj same
        exact .object keys once
    · rintro ⟨keys, once⟩
      have read := readMembers_eq_ok_iff.mpr ⟨keys, .inr ⟨rfl, topics, rfl, once⟩⟩
      rw [Fields.noSlots, Fields.noSlots, read]
      rfl
  | null | bool | number | text | malformed => exact iff_of_false nofun nofun

/-! ### Texts that ask -/

/-- Whether a text consists of a whole value that asks for topics, and of nothing else. -/
def IsAsked (text : String) (topics : Option (List String)) : Prop :=
  ∃ value : Value, value.IsWhole ∧ Token.Spells value.tokens text.toList ∧ Asks value topics

/-- Whether a text asks for no topics. -/
def IsSilent (text : String) : Prop := ∀ topics, ¬IsAsked text topics

theorem Asks.isOpen_eq_false {value : Value} {topics : Option (List String)}
    (asks : Asks value topics) : value.isOpen = false := by
  cases asks <;> rfl

theorem ofText_eq_ok_some_iff {text : String} {topics : Option (List String)} :
    schema.ofText text = .ok ⟨some topics⟩ ↔ IsAsked text topics := by
  rw [schema.ofText_eq_ok_iff]
  constructor
  · rintro ⟨value, read, found⟩
    have asks := read_eq_ok_some_iff.mp found
    have whole := Value.isWhole_of_readWhole read asks.isOpen_eq_false
    exact ⟨value, whole, (Value.readWhole_eq_iff whole).mp read, asks⟩
  · rintro ⟨value, whole, spells, asks⟩
    exact ⟨value, (Value.readWhole_eq_iff whole).mpr spells, read_eq_ok_some_iff.mpr asks⟩

end ControlFrame

namespace Filter

open ControlFrame

theorem requested?_eq_some_iff {text : String} {wanted : Filter} :
    requested? text = some wanted ↔ ∃ topics, IsAsked text topics ∧ ofTopics topics = wanted := by
  simp only [← ofText_eq_ok_some_iff]
  rw [requested?]
  constructor
  · intro asked
    split at asked
    · rename_i topics read
      exact ⟨topics, read, Option.some.inj asked⟩
    · cases asked
  · rintro ⟨topics, read, rfl⟩
    rw [read]

theorem requested?_of_isAsked {text : String} {topics : Option (List String)}
    (asked : IsAsked text topics) : requested? text = some (ofTopics topics) :=
  requested?_eq_some_iff.mpr ⟨topics, asked, rfl⟩

theorem requested?_eq_none_iff {text : String} : requested? text = none ↔ IsSilent text := by
  rw [Option.eq_none_iff_forall_ne_some]
  constructor
  · exact fun nothing topics asked => nothing _ (requested?_of_isAsked asked)
  · intro silent wanted asked
    obtain ⟨topics, asked, -⟩ := requested?_eq_some_iff.mp asked
    exact silent topics asked

/-! ### What was said last -/

theorem control_of_isAsked {text : String} {topics : Option (List String)}
    (asked : IsAsked text topics) (filter : Filter) :
    filter.control text = ofTopics topics := by
  rw [control, requested?_of_isAsked asked]
  rfl

theorem control_of_isSilent {text : String} (silent : IsSilent text) (filter : Filter) :
    filter.control text = filter := by
  rw [control, requested?_eq_none_iff.mpr silent]
  rfl

theorem foldl_control_of_isSilent {frames : List String}
    (silent : ∀ text ∈ frames, IsSilent text) (filter : Filter) :
    frames.foldl control filter = filter := by
  induction frames with
  | nil => rfl
  | cons text rest inductionHypothesis =>
    obtain ⟨first, later⟩ := List.forall_mem_cons.mp silent
    rw [List.foldl_cons, control_of_isSilent first, inductionHypothesis later]

theorem foldl_control_of_isAsked {before after : List String} {text : String}
    {topics : Option (List String)} (asked : IsAsked text topics)
    (silent : ∀ later ∈ after, IsSilent later) (filter : Filter) :
    (before ++ text :: after).foldl control filter = ofTopics topics := by
  rw [List.foldl_append, List.foldl_cons, control_of_isAsked asked,
    foldl_control_of_isSilent silent]

/-! ### What a filter accepts -/

/-- Whether a filter is the one for some topics. Null and the empty list stand for all topics. -/
structure IsFor (filter : Filter) (topics : Option (List String)) : Prop where
  accepts_iff (topic : String) :
    filter.accepts topic = true ↔
      topics = none ∨ topics = some [] ∨ ∃ names, topics = some names ∧ topic ∈ names
  allowed_eq_none (all : topics = none ∨ topics = some []) : filter.allowed = none
  /-- The topics are sorted by their bytes, each once. -/
  allowed_eq_some {names : List String} (listed : topics = some names) (filled : names ≠ []) :
    ∃ sorted, filter.allowed = some sorted ∧
      sorted.Pairwise (fun left right => Text.utf8Bytes left < Text.utf8Bytes right) ∧
      ∀ topic, topic ∈ sorted ↔ topic ∈ names

theorem isFor_everything {topics : Option (List String)}
    (all : topics = none ∨ topics = some []) : everything.IsFor topics where
  accepts_iff _ := iff_of_true rfl (all.imp_right .inl)
  allowed_eq_none _ := rfl
  allowed_eq_some listed filled := by
    rcases all with rfl | rfl
    · cases listed
    · exact absurd (Option.some.inj listed).symm filled

theorem allowed_ofTopics {names : List String} (filled : names ≠ []) :
    (ofTopics (some names)).allowed = some (Text.sortedOnce names) := by
  cases names with
  | nil => exact absurd rfl filled
  | cons name rest => rfl

theorem isFor_ofTopics (topics : Option (List String)) : (ofTopics topics).IsFor topics := by
  rcases topics with - | - | ⟨name, rest⟩
  · exact isFor_everything (.inl rfl)
  · exact isFor_everything (.inr rfl)
  · have allowed := allowed_ofTopics (List.cons_ne_nil name rest)
    refine ⟨fun topic => ?_, fun all => ?_, fun listed _ => ?_⟩
    · rw [accepts, allowed, Option.all_some, List.contains_iff_mem, Text.mem_sortedOnce]
      simp
    · rcases all with nothing | nothing <;> cases nothing
    · obtain rfl := Option.some.inj listed
      exact ⟨_, allowed, (Text.pairwise_lt_sortedOnce _).imp (Text.utf8Bytes_lt_iff _ _).mpr,
        fun _ => Text.mem_sortedOnce⟩

/-- Neither order nor repetition matters. -/
theorem ofTopics_eq {names others : List String}
    (same : ∀ topic, topic ∈ names ↔ topic ∈ others) :
    ofTopics (some names) = ofTopics (some others) := by
  cases names with
  | nil =>
    have nothing : others = [] :=
      List.eq_nil_iff_forall_not_mem.mpr fun topic => mt (same topic).mpr List.not_mem_nil
    rw [nothing]
  | cons name rest =>
    have filled : others ≠ [] := List.ne_nil_of_mem ((same name).mp List.mem_cons_self)
    have allowed := allowed_ofTopics filled
    rw [← Text.sortedOnce_eq same, ← allowed_ofTopics (List.cons_ne_nil name rest)] at allowed
    exact congrArg Filter.mk allowed.symm

/-- A text is taken if it asks for topics, and the last one that is taken decides. Other texts
change nothing. -/
theorem last_request_decides (filter : Filter) (frames : List String) :
    (∀ text, (requested? text).isSome = true ↔ ∃ topics, IsAsked text topics) ∧
    (∀ text topics, IsAsked text topics → (filter.control text).IsFor topics) ∧
    (∀ text, IsSilent text → filter.control text = filter) ∧
    (∀ before text after topics, frames = before ++ text :: after → IsAsked text topics →
      (∀ later ∈ after, IsSilent later) → (frames.foldl control filter).IsFor topics) ∧
    ((∀ text ∈ frames, IsSilent text) → frames.foldl control filter = filter ∧
      (filter = everything → ∀ topic, (frames.foldl control filter).accepts topic = true)) ∧
    -- Neither the order of the topics nor their repetition matters.
    ∀ text other names others, IsAsked text (some names) → IsAsked other (some others) →
      (∀ topic, topic ∈ names ↔ topic ∈ others) → filter.control text = filter.control other := by
  refine ⟨fun text => ?_, fun _ topics asked => ?_,
    fun _ silent => control_of_isSilent silent filter, ?_, fun silent => ?_,
    fun _ _ _ _ first second same => ?_⟩
  · rw [Option.isSome_iff_ne_none, Ne, requested?_eq_none_iff, IsSilent, not_forall_not]
  · rw [control_of_isAsked asked]
    exact isFor_ofTopics topics
  · rintro before text after topics rfl asked silent
    rw [foldl_control_of_isAsked asked silent]
    exact isFor_ofTopics topics
  · rw [foldl_control_of_isSilent silent]
    exact ⟨rfl, fun all _ => all ▸ rfl⟩
  · rw [control_of_isAsked first, control_of_isAsked second, ofTopics_eq same]

end Filter

end ServerMonitor
