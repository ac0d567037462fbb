/-
This file states that a value of any shape is read back from what is written for
it, provided that its leaves are. The proof goes along the shape: an array is read
item by item, and a record fills the slot of each field with the member that the
field wrote. A field that wrote no member is null.
-/

import ServerMonitor.Proofs.Json.Leaf

namespace ServerMonitor.Json

/-! ### The leaves of a value -/

mutual

/-- The values without parts in the order in which they are written. -/
def Shape.leaves : (shape : Shape) → shape.Carrier → List (Sigma Leaf.Carrier)
  | .leaf leaf, value => [⟨leaf, value⟩]
  | .optional _, none => []
  | .optional inner, some value => inner.leaves value
  | .list item, items => items.flatMap fun value => item.leaves value
  | .dictionary shape, dictionary => dictionary.entries.flatMap fun entry => shape.leaves entry.2
  | .record fields, parts => fields.leaves parts

def Fields.leaves : (fields : Fields) → fields.Carrier → List (Sigma Leaf.Carrier)
  | .nil, () => []
  | .cons _ .always shape rest, (value, values) => shape.leaves value ++ rest.leaves values
  | .cons _ .unlessNull shape rest, (value, values) => shape.leaves value ++ rest.leaves values
  | .cons _ .mayBeAbsent shape rest, (some value, values) =>
    shape.leaves value ++ rest.leaves values
  | .cons _ .mayBeAbsent _ rest, (none, values) => rest.leaves values

end

/-- Whether every leaf is found again from what is written for it. -/
def AreLegible (leaves : List (Sigma Leaf.Carrier)) : Prop :=
  ∀ leaf ∈ leaves, leaf.1.IsLegible leaf.2

/-! ### Shapes that tell values apart -/

def Shape.isOptional : Shape → Bool
  | .optional _ => true
  | _ => false

mutual

/-- Whether different values of a shape are written differently: null stands for one value only,
the fields of a record have different names, and a field that is left out can be null. -/
def Shape.tellsApart : Shape → Bool
  | .leaf _ => true
  | .optional inner => !inner.isOptional && inner.tellsApart
  | .list item => item.tellsApart
  | .dictionary value => value.tellsApart
  | .record fields => fields.tellsApart

def Fields.tellsApart : Fields → Bool
  | .nil => true
  | .cons name presence shape rest =>
    !rest.names.contains name && (presence != .unlessNull || shape.isOptional) &&
      shape.tellsApart && rest.tellsApart

end

/-! ### Null and whole values -/

/-- Null is written for an absent value only. -/
theorem Shape.write_ne_null (shape : Shape) (value : shape.Carrier)
    (some : shape.isOptional = false) (legible : AreLegible (shape.leaves value)) :
    shape.write value ≠ .null := by
  cases shape with
  | leaf leaf => exact leaf.write_ne_null value (legible _ List.mem_cons_self)
  | optional inner => cases some
  | list | dictionary | record => nofun

theorem areComplete_map {Part : Type} {write : Part → Value} {parts : List Part}
    (complete : ∀ part, (write part).IsComplete) : Value.AreComplete (parts.map write) := by
  induction parts with
  | nil => trivial
  | cons part rest inductionHypothesis => exact ⟨complete part, inductionHypothesis⟩

theorem areCompleteMembers_map {members : List (String × Value)}
    (complete : ∀ member ∈ members, member.2.IsComplete) :
    Value.AreCompleteMembers (members.map fun member => (some member.1, member.2)) := by
  induction members with
  | nil => trivial
  | cons member rest inductionHypothesis =>
    obtain ⟨first, others⟩ := List.forall_mem_cons.mp complete
    exact ⟨rfl, first, inductionHypothesis others⟩

theorem mem_memberUnlessNull {name : String} {value : Value} {member : String × Value}
    (written : member ∈ memberUnlessNull name value) : member = (name, value) := by
  unfold memberUnlessNull at written
  split at written
  · cases written
  · exact List.mem_singleton.mp written

mutual

/-- Nothing is broken off in what is written. -/
theorem Shape.isComplete_write : (shape : Shape) → (value : shape.Carrier) →
    (shape.write value).IsComplete
  | .leaf leaf, value => leaf.isComplete_write value
  | .optional _, none => trivial
  | .optional inner, some value => inner.isComplete_write value
  | .list item, _ => ⟨rfl, areComplete_map item.isComplete_write⟩
  | .dictionary shape, dictionary => by
    refine ⟨rfl, areCompleteMembers_map fun member written => ?_⟩
    obtain ⟨entry, -, rfl⟩ := List.mem_map.mp written
    exact shape.isComplete_write entry.2
  | .record fields, parts => ⟨rfl, areCompleteMembers_map (fields.isComplete_write parts)⟩

theorem Fields.isComplete_write : (fields : Fields) → (values : fields.Carrier) →
    ∀ member ∈ fields.write values, member.2.IsComplete
  | .nil, (), _, written => nomatch written
  | .cons _ .always shape rest, (value, values), _, written =>
    match List.mem_cons.mp written with
    | .inl same => same ▸ shape.isComplete_write value
    | .inr later => rest.isComplete_write values _ later
  | .cons _ .unlessNull shape rest, (value, values), _, written =>
    match List.mem_append.mp written with
    | .inl own => mem_memberUnlessNull own ▸ shape.isComplete_write value
    | .inr later => rest.isComplete_write values _ later
  | .cons _ .mayBeAbsent shape rest, (some value, values), _, written =>
    match List.mem_cons.mp written with
    | .inl same => same ▸ shape.isComplete_write value
    | .inr later => rest.isComplete_write values _ later
  | .cons _ .mayBeAbsent _ rest, (none, values), _, written =>
    rest.isComplete_write values _ written

end

/-! ### Reading back -/

theorem readItems_map {Item : Type} (read : Value → Except Fault Item) (write : Item → Value)
    (items : List Item) (back : ∀ item ∈ items, read (write item) = .ok item) :
    readItems read (items.map write) = .ok items := by
  induction items with
  | nil => rfl
  | cons item rest inductionHypothesis =>
    obtain ⟨first, others⟩ := List.forall_mem_cons.mp back
    rw [List.map_cons, readItems, first, inductionHypothesis others]
    rfl

/-- An entry whose key did not come yet is added at the end. -/
theorem Dictionary.putEntry_of_new {Item : Type} (key : String) (value : Item)
    {entries : List (String × Item)} (new : key ∉ entries.map Prod.fst) :
    Dictionary.putEntry key value entries = entries ++ [(key, value)] := by
  induction entries with
  | nil => rfl
  | cons entry rest inductionHypothesis =>
    rw [List.map_cons, List.mem_cons, not_or] at new
    rw [Dictionary.putEntry, if_neg (Ne.symm new.1), inductionHypothesis new.2, List.cons_append]

theorem readMembers_entries {Item : Type} (read : Value → Except Fault Item) (write : Item → Value)
    (later : List (String × Item)) (back : ∀ entry ∈ later, read (write entry.2) = .ok entry.2)
    (dictionary : Dictionary Item)
    (distinct : ((dictionary.entries ++ later).map Prod.fst).Nodup) :
    ∃ result : Dictionary Item, result.entries = dictionary.entries ++ later ∧
      readMembers
        (fun dictionary key value => (read value).map fun entry =>
          some (dictionary.insert key entry))
        dictionary (later.map fun entry => (some entry.1, write entry.2)) = .ok result := by
  induction later generalizing dictionary with
  | nil => exact ⟨dictionary, (List.append_nil _).symm, rfl⟩
  | cons entry rest inductionHypothesis =>
    obtain ⟨first, others⟩ := List.forall_mem_cons.mp back
    have new : entry.1 ∉ dictionary.entries.map Prod.fst := by
      rw [List.map_append, List.nodup_append] at distinct
      exact fun member => distinct.2.2 _ member _ List.mem_cons_self rfl
    have entries : (dictionary.insert entry.1 entry.2).entries = dictionary.entries ++ [entry] :=
      Dictionary.putEntry_of_new entry.1 entry.2 new
    have split : (dictionary.insert entry.1 entry.2).entries ++ rest =
        dictionary.entries ++ entry :: rest := by
      rw [entries, List.append_assoc, List.singleton_append]
    obtain ⟨result, all, read⟩ :=
      inductionHypothesis others (dictionary.insert entry.1 entry.2) (split ▸ distinct)
    refine ⟨result, all.trans split, ?_⟩
    rw [List.map_cons, readMembers, first]
    exact read

namespace Fields

theorem mem_names_of_mem_write : (fields : Fields) → (values : fields.Carrier) →
    ∀ member ∈ fields.write values, member.1 ∈ fields.names
  | .nil, (), _, written => nomatch written
  | .cons _ .always _ rest, (_, values), _, written =>
    match List.mem_cons.mp written with
    | .inl same => same ▸ List.mem_cons_self
    | .inr later => List.mem_cons_of_mem _ (rest.mem_names_of_mem_write values _ later)
  | .cons _ .unlessNull _ rest, (_, values), _, written =>
    match List.mem_append.mp written with
    | .inl own => mem_memberUnlessNull own ▸ List.mem_cons_self
    | .inr later => List.mem_cons_of_mem _ (rest.mem_names_of_mem_write values _ later)
  | .cons _ .mayBeAbsent _ rest, (some _, values), _, written =>
    match List.mem_cons.mp written with
    | .inl same => same ▸ List.mem_cons_self
    | .inr later => List.mem_cons_of_mem _ (rest.mem_names_of_mem_write values _ later)
  | .cons _ .mayBeAbsent _ rest, (none, values), _, written =>
    List.mem_cons_of_mem _ (rest.mem_names_of_mem_write values _ written)

/-- What the slot of a field holds that is left out where it would be null. -/
def slotUnlessNull {Part : Type} (written : Value) (value : Part) : Option Part :=
  match written with
  | .null => none
  | _ => some value

theorem unlessNull_cases {Part : Type} (name : String) (written : Value) (value : Part) :
    (written = .null ∧ memberUnlessNull name written = [] ∧ slotUnlessNull written value = none) ∨
      memberUnlessNull name written = [(name, written)] ∧
        slotUnlessNull written value = some value := by
  cases written with
  | null => exact .inl ⟨rfl, rfl, rfl⟩
  | _ => exact .inr ⟨rfl, rfl⟩

/-- What the slots hold after the members that a record writes. -/
def filled : (fields : Fields) → fields.Carrier → fields.Slots
  | .nil, () => ()
  | .cons _ .always _ rest, (value, values) => (some value, rest.filled values)
  | .cons _ .unlessNull shape rest, (value, values) =>
    (slotUnlessNull (shape.write value) value, rest.filled values)
  | .cons _ .mayBeAbsent _ rest, (slot, values) => (slot, rest.filled values)

/-- The members of the later fields pass the first one by. -/
theorem readMembers_put_cons {name : String} {presence : Presence} {shape : Shape} {rest : Fields}
    (slot : Option shape.Carrier) (slots : rest.Slots) (members : List (String × Value))
    (others : ∀ member ∈ members, member.1 ≠ name) :
    readMembers (fun slots key value => (Fields.cons name presence shape rest).put slots key value)
        (slot, slots) (members.map fun member => (some member.1, member.2)) =
      (readMembers (fun slots key value => rest.put slots key value) slots
        (members.map fun member => (some member.1, member.2))).map (slot, ·) := by
  induction members generalizing slots with
  | nil => rfl
  | cons member members inductionHypothesis =>
    obtain ⟨other, others⟩ := List.forall_mem_cons.mp others
    rw [List.map_cons, readMembers, readMembers, put, if_neg other]
    cases rest.put slots member.1 member.2 with
    | error fault => rfl
    | ok taken =>
      cases taken with
      | none => exact inductionHypothesis slots others
      | some taken => exact inductionHypothesis taken others

/-- The member of a field fills its slot. -/
theorem readMembers_put_own {name : String} {presence : Presence} {shape : Shape} {rest : Fields}
    {value : shape.Carrier} (back : shape.read (shape.write value) = .ok value) (slots : rest.Slots)
    (members : List (String × Value)) (others : ∀ member ∈ members, member.1 ≠ name) :
    readMembers (fun slots key value => (Fields.cons name presence shape rest).put slots key value)
        (none, slots)
        (((name, shape.write value) :: members).map fun member => (some member.1, member.2)) =
      (readMembers (fun slots key value => rest.put slots key value) slots
        (members.map fun member => (some member.1, member.2))).map (some value, ·) := by
  rw [List.map_cons, readMembers, put, if_pos rfl, back]
  exact readMembers_put_cons (some value) slots members others

/-- The parts of a record that tells values apart. -/
theorem tellsApart_cons {name : String} {presence : Presence} {shape : Shape} {rest : Fields}
    (apart : (Fields.cons name presence shape rest).tellsApart = true) :
    name ∉ rest.names ∧ (presence = .unlessNull → shape.isOptional = true) ∧
      shape.tellsApart = true ∧ rest.tellsApart = true := by
  simpa [tellsApart, and_assoc, imp_iff_not_or] using apart

/-- The later fields of a record write no member of the first one. -/
theorem write_others {name : String} {rest : Fields} (new : name ∉ rest.names)
    (values : rest.Carrier) : ∀ member ∈ rest.write values, member.1 ≠ name :=
  fun member written same => new (same ▸ rest.mem_names_of_mem_write values member written)

theorem missing?_of_write_eq_null {shape : Shape} (optional : shape.isOptional = true)
    (apart : shape.tellsApart = true) (value : shape.Carrier)
    (legible : AreLegible (shape.leaves value)) (null : shape.write value = .null) :
    shape.missing? = some value := by
  cases shape with
  | leaf | list | dictionary | record => cases optional
  | optional inner =>
    cases value with
    | none => rfl
    | some value =>
      rw [Shape.tellsApart, Bool.and_eq_true, Bool.not_eq_true'] at apart
      exact absurd null (inner.write_ne_null value apart.1 legible)

/-- A record consists of what its slots hold; a field that wrote no member is null. -/
theorem ofSlots_filled : (fields : Fields) → fields.tellsApart = true →
    (values : fields.Carrier) → AreLegible (fields.leaves values) →
      fields.ofSlots (fields.filled values) = .ok values
  | .nil, _, (), _ => rfl
  | .cons name .always shape rest, apart, (value, values), legible => by
    obtain ⟨-, -, -, later⟩ := tellsApart_cons apart
    rw [filled, ofSlots]
    show (rest.ofSlots (rest.filled values)).map _ = _
    rw [rest.ofSlots_filled later values (List.forall_mem_append.mp legible).2]
    rfl
  | .cons name .unlessNull shape rest, apart, (value, values), legible => by
    obtain ⟨-, optional, own, later⟩ := tellsApart_cons apart
    obtain ⟨first, others⟩ := List.forall_mem_append.mp legible
    have held : (slotUnlessNull (shape.write value) value <|> shape.missing?) = some value := by
      rcases unlessNull_cases name (shape.write value) value with ⟨null, -, slot⟩ | ⟨-, slot⟩
      · rw [slot, missing?_of_write_eq_null (optional rfl) own value first null]
        rfl
      · rw [slot]
        rfl
    rw [filled, ofSlots, held]
    show (rest.ofSlots (rest.filled values)).map _ = _
    rw [rest.ofSlots_filled later values others]
    rfl
  | .cons name .mayBeAbsent shape rest, apart, (slot, values), legible => by
    obtain ⟨-, -, -, later⟩ := tellsApart_cons apart
    have legible : AreLegible (rest.leaves values) := by
      cases slot with
      | none => exact legible
      | some value => exact (List.forall_mem_append.mp legible).2
    rw [filled, ofSlots, rest.ofSlots_filled later values legible]
    rfl

end Fields

mutual

/-- A value is read back from what is written for it if its leaves are. -/
theorem Shape.read_write : (shape : Shape) → shape.tellsApart = true → (value : shape.Carrier) →
    AreLegible (shape.leaves value) → shape.read (shape.write value) = .ok value
  | .leaf leaf, _, value, legible => leaf.read_write value (legible _ List.mem_cons_self)
  | .optional _, _, none, _ => rfl
  | .optional inner, apart, some value, legible => by
    rw [Shape.tellsApart, Bool.and_eq_true, Bool.not_eq_true'] at apart
    have notNull := inner.write_ne_null value apart.1 legible
    rw [Shape.write, Shape.read.eq_3 _ _ notNull, inner.read_write apart.2 value legible]
    rfl
  | .list item, apart, items, legible => by
    have back := readItems_map (fun value => item.read value) (fun value => item.write value) items
      fun value member =>
        item.read_write apart value (List.forall_mem_flatMap.mp legible value member)
    rw [Shape.write, Value.ofItems, Shape.read, back]
    rfl
  | .dictionary shape, apart, dictionary, legible => by
    obtain ⟨result, entries, read⟩ := readMembers_entries (fun value => shape.read value)
      (fun value => shape.write value) dictionary.entries
      (fun entry member =>
        shape.read_write apart entry.2 (List.forall_mem_flatMap.mp legible entry member))
      Dictionary.empty dictionary.distinct
    have same : result = dictionary := by
      obtain ⟨_, _⟩ := result
      obtain rfl := entries
      rfl
    rw [Shape.write, Value.ofMembers, List.map_map, Shape.read]
    exact (congrArg (· >>= _) read).trans (congrArg Except.ok same)
  | .record fields, apart, parts, legible => by
    rw [Shape.write, Value.ofMembers, Shape.read, fields.readMembers_write apart parts legible]
    exact fields.ofSlots_filled apart parts legible

theorem Fields.readMembers_write : (fields : Fields) → fields.tellsApart = true →
    (values : fields.Carrier) → AreLegible (fields.leaves values) →
      readMembers (fun slots key value => fields.put slots key value) fields.noSlots
        ((fields.write values).map fun member => (some member.1, member.2)) =
          .ok (fields.filled values)
  | .nil, _, (), _ => rfl
  | .cons name .always shape rest, apart, (value, values), legible => by
    obtain ⟨new, -, own, later⟩ := Fields.tellsApart_cons apart
    obtain ⟨first, others⟩ := List.forall_mem_append.mp legible
    rw [Fields.write, Fields.noSlots, Fields.readMembers_put_own (shape.read_write own value first)
      _ _ (Fields.write_others new values), rest.readMembers_write later values others]
    rfl
  | .cons name .unlessNull shape rest, apart, (value, values), legible => by
    obtain ⟨new, -, own, later⟩ := Fields.tellsApart_cons apart
    obtain ⟨first, others⟩ := List.forall_mem_append.mp legible
    have read := rest.readMembers_write later values others
    rw [Fields.write, Fields.noSlots, Fields.filled]
    rcases Fields.unlessNull_cases name (shape.write value) value with
      ⟨-, member, slot⟩ | ⟨member, slot⟩
    · rw [member, slot, List.nil_append,
        Fields.readMembers_put_cons _ _ _ (Fields.write_others new values), read]
      rfl
    · rw [member, slot, List.singleton_append,
        Fields.readMembers_put_own (shape.read_write own value first) _ _
          (Fields.write_others new values), read]
      rfl
  | .cons name .mayBeAbsent shape rest, apart, (some value, values), legible => by
    obtain ⟨new, -, own, later⟩ := Fields.tellsApart_cons apart
    obtain ⟨first, others⟩ := List.forall_mem_append.mp legible
    rw [Fields.write, Fields.noSlots, Fields.readMembers_put_own (shape.read_write own value first)
      _ _ (Fields.write_others new values), rest.readMembers_write later values others]
    rfl
  | .cons name .mayBeAbsent shape rest, apart, (none, values), legible => by
    obtain ⟨new, -, -, later⟩ := Fields.tellsApart_cons apart
    rw [Fields.write, Fields.noSlots,
      Fields.readMembers_put_cons _ _ _ (Fields.write_others new values),
      rest.readMembers_write later values legible]
    rfl

end

end ServerMonitor.Json
