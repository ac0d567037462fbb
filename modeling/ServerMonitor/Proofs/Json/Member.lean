/-
This file states where the fields of a record come from that was read: each has
what the member of its name holds, or, in a record written as an array, what the
item at its position holds. No other part of the text has a say in it, whatever
the order of the members. For an object the proof goes along its members, with
the members that came so far as what the slots are read from.
-/

import ServerMonitor.Proofs.Json.Reading

namespace ServerMonitor.Json

/-- What a value gives for a field of a record: the first member of its name in an object, the item
at its position in an array. -/
def Value.member? (value : Value) (name : String) (position : Nat) : Option Value :=
  match value with
  | .object members _ => members.lookup (some name)
  | .array items _ => items[position]?
  | _ => none

/-- Whether a result is read from what is given, or is the fallback if nothing is. -/
def IsTaken {Result : Type} (read : Value → Except Fault Result) (given : Option Value)
    (fallback result : Result) : Prop :=
  given.elim (.ok fallback) read = .ok result

namespace Fields

/-- Whether each slot holds what is given for its field, and nothing if nothing is given. Positions
are counted from the one of the first field. -/
def AreGiven (given : String → Nat → Option Value) :
    (fields : Fields) → Nat → fields.Slots → Prop
  | .nil, _, () => True
  | .cons name _ shape rest, position, (slot, slots) =>
    IsTaken (fun value => (shape.read value).map some) (given name position) none slot ∧
      rest.AreGiven given (position + 1) slots

variable {given other : String → Nat → Option Value}

theorem areGiven_noSlots (nothing : ∀ name position, given name position = none) :
    (fields : Fields) → (position : Nat) → fields.AreGiven given position fields.noSlots
  | .nil, _ => trivial
  | .cons name _ _ rest, position => by
    refine ⟨?_, rest.areGiven_noSlots nothing (position + 1)⟩
    rw [IsTaken, nothing]
    rfl

/-- What is given for other names does not matter. -/
theorem AreGiven.congr : {fields : Fields} → {position : Nat} → {slots : fields.Slots} →
    fields.AreGiven given position slots →
      (∀ name ∈ fields.names, ∀ position, other name position = given name position) →
        fields.AreGiven other position slots
  | .nil, _, (), _, _ => trivial
  | .cons _ _ _ _, _, (_, _), ⟨first, later⟩, same => by
    obtain ⟨own, others⟩ := List.forall_mem_cons.mp same
    refine ⟨?_, later.congr others⟩
    rw [own]
    exact first

/-! ### Records written as objects -/

section Object

variable {members : List (Option String × Value)}

/-- What the members of an object give. -/
def fromMembers (members : List (Option String × Value)) (name : String) (_ : Nat) :
    Option Value :=
  members.lookup (some name)

theorem fromMembers_concat (key name : String) (value : Value) (position : Nat) :
    fromMembers (members ++ [(some key, value)]) name position =
      (fromMembers members name position).or (if name = key then some value else none) := by
  rw [fromMembers, List.lookup_append, List.lookup_cons]
  by_cases same : name = key
  · rw [if_pos same, same, beq_self_eq_true]
    rfl
  · rw [if_neg same, beq_false_of_ne fun equal => same (Option.some.inj equal)]
    rfl

theorem fromMembers_concat_of_ne {key name : String} (value : Value) (position : Nat)
    (different : name ≠ key) :
    fromMembers (members ++ [(some key, value)]) name position =
      fromMembers members name position := by
  rw [fromMembers_concat, if_neg different, Option.or_none]

/-- A member that is taken fills the slot of its field; one that no field has changes nothing. -/
theorem areGiven_put {key : String} {value : Value} :
    (fields : Fields) → fields.names.Nodup → {position : Nat} → {slots : fields.Slots} →
      {taken : Option fields.Slots} → fields.put slots key value = .ok taken →
        fields.AreGiven (fromMembers members) position slots →
          fields.AreGiven (fromMembers (members ++ [(some key, value)])) position
            (taken.getD slots)
  | .nil, _, _, (), _, _, _ => trivial
  | .cons name _ shape rest, distinct, position, (slot, slots), taken, put, ⟨first, later⟩ => by
    obtain ⟨new, distinct⟩ := List.nodup_cons.mp distinct
    rw [Fields.put] at put
    split at put
    · rename_i own
      subst own
      split at put
      · cases put
      · rename_i empty
        obtain rfl : slot = none := Option.not_isSome_iff_eq_none.mp empty
        obtain ⟨entry, read, rfl⟩ := ok_of_map put
        -- Nothing was given for this field before, or its slot would be filled.
        have nothing : fromMembers members key position = none := by
          by_contra something
          obtain ⟨earlier, given⟩ := Option.ne_none_iff_exists'.mp something
          rw [IsTaken, given] at first
          obtain ⟨_, -, full⟩ := ok_of_map first
          cases full
        refine ⟨?_, later.congr fun other member _ =>
          fromMembers_concat_of_ne value _ fun same => new (same ▸ member)⟩
        rw [IsTaken, fromMembers_concat, nothing, if_pos rfl]
        show (shape.read value).map some = _
        rw [read]
        rfl
    · rename_i different
      obtain ⟨passed, taken, rfl⟩ := ok_of_map put
      have kept : ((passed.map fun slots => (slot, slots)).getD (slot, slots)) =
          (slot, passed.getD slots) := by
        cases passed <;> rfl
      rw [kept]
      refine ⟨?_, rest.areGiven_put distinct taken later⟩
      rw [fromMembers_concat_of_ne value position (Ne.symm different)]
      exact first

/-- The slots hold what the members gave that came, whatever their order. -/
theorem areGiven_readMembers (fields : Fields) (distinct : fields.names.Nodup)
    {slots result : fields.Slots} (given : fields.AreGiven (fromMembers members) 0 slots)
    {later : List (Option String × Value)}
    (read : readMembers (fun slots key value => fields.put slots key value) slots later =
      .ok result) : fields.AreGiven (fromMembers (members ++ later)) 0 result := by
  induction later generalizing members slots with
  | nil =>
    rw [List.append_nil]
    exact Except.ok.inj read ▸ given
  | cons member later inductionHypothesis =>
    obtain ⟨key, value⟩ := member
    cases key with
    | none => cases read
    | some key =>
      obtain ⟨taken, put, read⟩ := ok_of_bind read
      have next := inductionHypothesis (fields.areGiven_put distinct put given) read
      rwa [List.append_assoc] at next

end Object

/-! ### Records written as arrays -/

section Array

variable {all : List Value}

theorem areGiven_atEnd : (fields : Fields) → {position : Nat} → all.length ≤ position →
    {values : fields.Carrier} → fields.atEnd = .ok values →
      ∃ slots, fields.AreGiven (fun _ position => all[position]?) position slots ∧
        fields.ofSlots slots = .ok values
  | .nil, _, _, (), _ => ⟨(), trivial, rfl⟩
  | .cons _ .mayBeAbsent _ rest, position, beyond, _, done => by
    obtain ⟨others, ended, rfl⟩ := ok_of_map done
    obtain ⟨slots, given, held⟩ := rest.areGiven_atEnd (Nat.le_succ_of_le beyond) ended
    refine ⟨(none, slots), ⟨?_, given⟩, ?_⟩
    · dsimp only [IsTaken]
      rw [List.getElem?_eq_none beyond]
      rfl
    · rw [ofSlots, held]
      rfl
  | .cons _ .always _ _, _, _, _, done => nomatch done
  | .cons _ .unlessNull _ _, _, _, _, done => nomatch done

/-- The items of an array fill the slots in order. -/
theorem areGiven_readArray (closed : Bool) : (fields : Fields) → {position : Nat} →
    {items : List Value} → all.drop position = items → {values : fields.Carrier} →
      fields.readArray closed items = .ok values →
        ∃ slots, fields.AreGiven (fun _ position => all[position]?) position slots ∧
          fields.ofSlots slots = .ok values
  | .nil, _, _, _, (), _ => ⟨(), trivial, rfl⟩
  | .cons _ _ _ _, _, [], behind, _, read =>
    Fields.areGiven_atEnd _ (List.drop_eq_nil_iff.mp behind) (ok_of_whenClosed read)
  | .cons name presence shape rest, position, value :: items, behind, values, read => by
    have here : all[position]? = some value := by
      rw [← List.head?_drop, behind, List.head?_cons]
    have after : all.drop (position + 1) = items := by
      rw [← List.tail_drop, behind, List.tail_cons]
    have taken {entry : shape.Carrier} (read : shape.read value = .ok entry) :
        IsTaken (fun value => (shape.read value).map some) all[position]? none (some entry) := by
      rw [IsTaken, here]
      show (shape.read value).map some = _
      rw [read]
      rfl
    cases presence with
    | always | unlessNull | mayBeAbsent =>
      obtain ⟨entry, first, read⟩ := ok_of_bind read
      obtain ⟨others, later, rfl⟩ := ok_of_map read
      obtain ⟨slots, given, held⟩ := rest.areGiven_readArray closed after later
      refine ⟨(some entry, slots), ⟨taken first, given⟩, ?_⟩
      rw [ofSlots, held]
      rfl

end Array

end Fields

/-- The fields of a record that was read hold what is given for them, by name or by position. -/
theorem Shape.areGiven_of_read {fields : Fields} (distinct : fields.names.Nodup) {value : Value}
    {values : fields.Carrier} (read : (Shape.record fields).read value = .ok values) :
    ∃ slots, fields.AreGiven value.member? 0 slots ∧ fields.ofSlots slots = .ok values := by
  cases value with
  | array items closed =>
    exact fields.areGiven_readArray closed (List.drop_zero ..) read
  | object members closed =>
    rw [Shape.read] at read
    obtain ⟨slots, members, closes⟩ := ok_of_bind read
    have start : fields.AreGiven (Fields.fromMembers []) 0 fields.noSlots :=
      fields.areGiven_noSlots (fun _ _ => rfl) 0
    exact ⟨slots, fields.areGiven_readMembers distinct start members, ok_of_whenClosed closes⟩
  | null | bool | number | text | malformed => cases read

end ServerMonitor.Json
