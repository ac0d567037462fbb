/-
This file states where the leaves of a value come from that was read: each was read
from a value of its own, in whatever order the members came and however the records
were written. So what holds of every leaf that can be read holds of all leaves of
what was read.
-/

import ServerMonitor.Proofs.Json.Shape

namespace ServerMonitor.Json

/-! ### Readers that succeed -/

section

variable {Part Result : Type} {first : Except Fault Part} {result : Result}

theorem ok_of_map {change : Part → Result} (mapped : first.map change = .ok result) :
    ∃ part, first = .ok part ∧ change part = result := by
  cases first with
  | error fault => cases mapped
  | ok part => exact ⟨part, rfl, Except.ok.inj mapped⟩

theorem ok_of_bind {second : Part → Except Fault Result}
    (bound : (do let part ← first; second part) = .ok result) :
    ∃ part, first = .ok part ∧ second part = .ok result := by
  cases first with
  | error fault => cases bound
  | ok part => exact ⟨part, rfl, bound⟩

theorem ok_of_whenClosed {closed : Bool} {result : Result} {inner : Except Fault Result}
    (read : whenClosed closed inner = .ok result) : inner = .ok result := by
  cases closed with
  | true => exact read
  | false => cases read

end

theorem mem_of_readItems {Item : Type} {read : Value → Except Fault Item} {values : List Value}
    {items : List Item} (done : readItems read values = .ok items) :
    ∀ item ∈ items, ∃ value, read value = .ok item := by
  induction values generalizing items with
  | nil => exact Except.ok.inj done ▸ nofun
  | cons value rest inductionHypothesis =>
    obtain ⟨item, first, done⟩ := ok_of_bind done
    obtain ⟨later, others, done⟩ := ok_of_bind done
    obtain rfl := Except.ok.inj done
    exact List.forall_mem_cons.mpr ⟨⟨value, first⟩, inductionHypothesis others⟩

/-- What every member keeps holds when all have been read. -/
theorem readMembers_invariant {State : Type} (Invariant : State → Prop)
    {put : State → String → Value → Except Fault (Option State)}
    (step : ∀ state key value next, Invariant state → put state key value = .ok (some next) →
      Invariant next)
    {state result : State} (start : Invariant state) {members : List (Option String × Value)}
    (read : readMembers put state members = .ok result) : Invariant result := by
  induction members generalizing state with
  | nil => exact Except.ok.inj read ▸ start
  | cons member rest inductionHypothesis =>
    obtain ⟨key, value⟩ := member
    cases key with
    | none => cases read
    | some key =>
      obtain ⟨taken, first, read⟩ := ok_of_bind read
      cases taken with
      | none => exact inductionHypothesis start read
      | some next => exact inductionHypothesis (step state key value next start first) read

/-! ### Leaves that were read -/

/-- Whether every leaf was read from a value of its own. -/
def WereRead (leaves : List (Sigma Leaf.Carrier)) : Prop :=
  ∀ leaf ∈ leaves, ∃ part, leaf.1.read part = .ok leaf.2

theorem Dictionary.mem_putEntry {Item : Type} {key : String} {value : Item}
    {entries : List (String × Item)} {entry : String × Item}
    (member : entry ∈ Dictionary.putEntry key value entries) :
    entry = (key, value) ∨ entry ∈ entries := by
  induction entries with
  | nil => exact .inl (List.mem_singleton.mp member)
  | cons first rest inductionHypothesis =>
    rw [Dictionary.putEntry] at member
    split at member
    · exact (List.mem_cons.mp member).imp_right (List.mem_cons_of_mem _)
    · rcases List.mem_cons.mp member with same | later
      · exact .inr (List.mem_cons.mpr (.inl same))
      · exact (inductionHypothesis later).imp_right (List.mem_cons_of_mem _)

namespace Fields

/-- The leaves of what the members that came held. -/
def slotLeaves : (fields : Fields) → fields.Slots → List (Sigma Leaf.Carrier)
  | .nil, () => []
  | .cons _ _ _ rest, (none, slots) => rest.slotLeaves slots
  | .cons _ _ shape rest, (some value, slots) => shape.leaves value ++ rest.slotLeaves slots

theorem slotLeaves_noSlots : (fields : Fields) → fields.slotLeaves fields.noSlots = []
  | .nil => rfl
  | .cons _ _ _ rest => rest.slotLeaves_noSlots

theorem leaves_missing {shape : Shape} {value : shape.Carrier}
    (missing : shape.missing? = some value) : shape.leaves value = [] := by
  cases shape with
  | optional inner =>
    obtain rfl := Option.some.inj missing
    rfl
  | leaf | list | dictionary | record => cases missing

/-- A field has what its member held, or is null. -/
theorem wereRead_held {name : String} {presence : Presence} {shape : Shape} {rest : Fields}
    {slot : Option shape.Carrier} {slots : rest.Slots} {value : shape.Carrier}
    (held : (slot <|> shape.missing?) = some value)
    (read : WereRead ((Fields.cons name presence shape rest).slotLeaves (slot, slots))) :
    WereRead (shape.leaves value) ∧ WereRead (rest.slotLeaves slots) := by
  cases slot with
  | none => exact ⟨leaves_missing held ▸ List.forall_mem_nil _, read⟩
  | some slot =>
    obtain rfl := Option.some.inj held
    exact List.forall_mem_append.mp read

/-- The leaves of a record are those of its slots. -/
theorem wereRead_ofSlots : (fields : Fields) → (slots : fields.Slots) → {values : fields.Carrier} →
    fields.ofSlots slots = .ok values → WereRead (fields.slotLeaves slots) →
      WereRead (fields.leaves values)
  | .nil, (), (), _, _ => List.forall_mem_nil _
  | .cons _ presence shape rest, (slot, slots), values, done, read => by
    cases presence with
    | mayBeAbsent =>
      obtain ⟨others, later, rfl⟩ := ok_of_map done
      cases slot with
      | none => exact rest.wereRead_ofSlots slots later read
      | some value =>
        obtain ⟨first, read⟩ := List.forall_mem_append.mp read
        exact List.forall_mem_append.mpr ⟨first, rest.wereRead_ofSlots slots later read⟩
    | always | unlessNull =>
      rw [ofSlots] at done
      split at done
      · rename_i value held
        obtain ⟨others, later, rfl⟩ := ok_of_map done
        obtain ⟨first, remaining⟩ := wereRead_held held read
        exact List.forall_mem_append.mpr ⟨first, rest.wereRead_ofSlots slots later remaining⟩
      · cases done

theorem wereRead_atEnd : (fields : Fields) → {values : fields.Carrier} →
    fields.atEnd = .ok values → WereRead (fields.leaves values)
  | .nil, (), _ => List.forall_mem_nil _
  | .cons _ .mayBeAbsent _ rest, _, done => by
    obtain ⟨others, later, rfl⟩ := ok_of_map done
    exact rest.wereRead_atEnd later
  | .cons _ .always _ _, _, done => nomatch done
  | .cons _ .unlessNull _ _, _, done => nomatch done

end Fields

mutual

/-- Every leaf of what was read was read from a value of its own. -/
theorem Shape.wereRead : (shape : Shape) → (value : Value) → {result : shape.Carrier} →
    shape.read value = .ok result → WereRead (shape.leaves result)
  | .leaf leaf, value, _, read => fun other member => by
    obtain rfl := List.mem_singleton.mp member
    exact ⟨value, read⟩
  | .optional inner, value, result, read => by
    cases result with
    | none => exact List.forall_mem_nil _
    | some result =>
      cases value with
      | null => cases read
      | _ =>
        obtain ⟨part, read, same⟩ := ok_of_map read
        exact Option.some.inj same ▸ inner.wereRead _ read
  | .list item, value, result, read => by
    cases value with
    | array items closed =>
      rw [Shape.read] at read
      obtain ⟨parts, items, closes⟩ := ok_of_bind read
      obtain rfl := Except.ok.inj (ok_of_whenClosed closes)
      refine List.forall_mem_flatMap.mpr fun part member => ?_
      obtain ⟨value, own⟩ := mem_of_readItems items part member
      exact item.wereRead value own
    | _ => cases read
  | .dictionary shape, value, result, read => by
    cases value with
    | object members closed =>
      rw [Shape.read] at read
      obtain ⟨dictionary, members, closes⟩ := ok_of_bind read
      obtain rfl := Except.ok.inj (ok_of_whenClosed closes)
      refine List.forall_mem_flatMap.mpr (readMembers_invariant
        (fun state => ∀ entry ∈ state.entries, WereRead (shape.leaves entry.2)) ?_
        (List.forall_mem_nil _) members)
      intro state key value next earlier put entry member
      obtain ⟨part, own, same⟩ := ok_of_map put
      obtain rfl := Option.some.inj same
      rcases Dictionary.mem_putEntry member with rfl | old
      · exact shape.wereRead value own
      · exact earlier entry old
    | _ => cases read
  | .record fields, value, result, read => by
    cases value with
    | array items closed => exact fields.wereRead_readArray closed items read
    | object members closed =>
      rw [Shape.read] at read
      obtain ⟨slots, members, closes⟩ := ok_of_bind read
      refine fields.wereRead_ofSlots slots (ok_of_whenClosed closes) (readMembers_invariant
        (fun slots => WereRead (fields.slotLeaves slots)) ?_
        (fields.slotLeaves_noSlots ▸ List.forall_mem_nil _) members)
      exact fun slots key value next earlier put => fields.wereRead_put slots key value put earlier
    | _ => cases read

/-- A member adds to the leaves only what was read from it. -/
theorem Fields.wereRead_put : (fields : Fields) → (slots : fields.Slots) → (key : String) →
    (value : Value) → {next : fields.Slots} → fields.put slots key value = .ok (some next) →
      WereRead (fields.slotLeaves slots) → WereRead (fields.slotLeaves next)
  | .nil, _, _, _, _, taken, _ => nomatch taken
  | .cons name _ shape rest, (slot, slots), key, value, next, taken, read => by
    rw [Fields.put] at taken
    split at taken
    · split at taken
      · cases taken
      · rename_i empty
        obtain ⟨part, first, same⟩ := ok_of_map taken
        obtain rfl := Option.some.inj same
        obtain rfl : slot = none := Option.not_isSome_iff_eq_none.mp empty
        exact List.forall_mem_append.mpr ⟨shape.wereRead value first, read⟩
    · obtain ⟨later, put, same⟩ := ok_of_map taken
      obtain ⟨slots', rfl, rfl⟩ := Option.map_eq_some_iff.mp same
      cases slot with
      | none => exact rest.wereRead_put slots key value put read
      | some slot =>
        obtain ⟨first, read⟩ := List.forall_mem_append.mp read
        exact List.forall_mem_append.mpr ⟨first, rest.wereRead_put slots key value put read⟩

theorem Fields.wereRead_readArray : (fields : Fields) → (closed : Bool) → (items : List Value) →
    {values : fields.Carrier} → fields.readArray closed items = .ok values →
      WereRead (fields.leaves values)
  | .nil, _, _, (), _ => List.forall_mem_nil _
  | .cons name presence shape rest, closed, [], values, done =>
    Fields.wereRead_atEnd _ (ok_of_whenClosed done)
  | .cons _ presence shape rest, closed, value :: items, values, done => by
    cases presence with
    | always | unlessNull | mayBeAbsent =>
      obtain ⟨part, first, done⟩ := ok_of_bind done
      obtain ⟨others, later, rfl⟩ := ok_of_map done
      exact List.forall_mem_append.mpr
        ⟨shape.wereRead value first, rest.wereRead_readArray closed items later⟩

end

end ServerMonitor.Json
