/-
This file states that texts and values of a schema stand for each other. A schema
is faithful if its shape tells values apart and carries the values of its type and
no others. Then a value is read back from its text if its floating-point numbers
are, and what was read has finite ones.
-/

import ServerMonitor.Json.Schema
import ServerMonitor.Proofs.Json.Document
import ServerMonitor.Proofs.Json.Reading

namespace ServerMonitor.Json

/-! ### Kinds of leaves -/

mutual

/-- Whether values of a shape can have leaves of a kind. -/
def Shape.mentions (kind : Leaf) : Shape → Bool
  | .leaf leaf => leaf = kind
  | .optional inner => inner.mentions kind
  | .list item => item.mentions kind
  | .dictionary value => value.mentions kind
  | .record fields => fields.mentions kind

def Fields.mentions (kind : Leaf) : Fields → Bool
  | .nil => false
  | .cons _ _ shape rest => shape.mentions kind || rest.mentions kind

end

mutual

theorem Shape.mentions_of_mem_leaves : (shape : Shape) → (value : shape.Carrier) →
    ∀ leaf ∈ shape.leaves value, shape.mentions leaf.1 = true
  | .leaf _, _, _, member => by
    obtain rfl := List.mem_singleton.mp member
    exact decide_eq_true rfl
  | .optional _, none, _, member => by cases member
  | .optional inner, some value, _, member => inner.mentions_of_mem_leaves value _ member
  | .list item, _, _, member => by
    obtain ⟨value, -, own⟩ := List.mem_flatMap.mp member
    exact item.mentions_of_mem_leaves value _ own
  | .dictionary shape, _, _, member => by
    obtain ⟨entry, -, own⟩ := List.mem_flatMap.mp member
    exact shape.mentions_of_mem_leaves entry.2 _ own
  | .record fields, parts, _, member => fields.mentions_of_mem_leaves parts _ member

theorem Fields.mentions_of_mem_leaves : (fields : Fields) → (values : fields.Carrier) →
    ∀ leaf ∈ fields.leaves values, fields.mentions leaf.1 = true
  | .nil, (), _, member => by cases member
  | .cons _ presence shape rest, (value, values), _, member => by
    cases presence with
    | always | unlessNull =>
      exact (Bool.or_eq_true _ _).mpr ((List.mem_append.mp member).imp
        (shape.mentions_of_mem_leaves value _) (rest.mentions_of_mem_leaves values _))
    | mayBeAbsent =>
      cases value with
      | none => exact (Bool.or_eq_true _ _).mpr (.inr (rest.mentions_of_mem_leaves values _ member))
      | some value =>
        exact (Bool.or_eq_true _ _).mpr ((List.mem_append.mp member).imp
          (shape.mentions_of_mem_leaves value _) (rest.mentions_of_mem_leaves values _))

end

/-! ### Floating-point numbers -/

/-- A leaf as a floating-point number. -/
def realOf? : Sigma Leaf.Carrier → Option Binary64
  | ⟨.real, number⟩ => some number
  | _ => none

/-- Whether the reader finds a number again from its shortest digits. -/
def ReadsBack (number : Binary64) : Prop := (Numeral.ofReal number).toReal? = some number

instance (number : Binary64) : Decidable (ReadsBack number) :=
  inferInstanceAs (Decidable (_ = _))

namespace Schema

variable {Model : Type} (schema : Schema Model)

/-- A text holds the value that is read from its JSON, if nothing follows that. -/
theorem ofText_eq_ok_iff {text : String} {model : Model} :
    schema.ofText text = .ok model ↔
      ∃ value, readWhole text = (value, true) ∧ schema.read value = .ok model := by
  rw [ofText]
  obtain ⟨value, complete⟩ := readWhole text
  dsimp only
  constructor
  · intro held
    split at held
    · split at held
      · rename_i whole
        obtain rfl := Except.ok.inj held
        exact ⟨value, congrArg _ whole, ‹_›⟩
      · cases held
    · cases held
  · rintro ⟨_, same, read⟩
    obtain ⟨rfl, rfl⟩ := Prod.mk.inj same
    rw [read]
    rfl

/-- The floating-point numbers of a value, in the order in which they are written. -/
def reals (model : Model) : List Binary64 :=
  (schema.shape.leaves (schema.toParts model)).filterMap realOf?

theorem reals_eq_nil (without : schema.shape.mentions .real = false) (model : Model) :
    schema.reals model = [] := by
  refine List.filterMap_eq_nil_iff.mpr ?_
  rintro ⟨leaf, value⟩ member
  cases leaf with
  | real =>
    have mentioned := schema.shape.mentions_of_mem_leaves _ _ member
    rw [without] at mentioned
    cases mentioned
  | _ => rfl

/-- Whether the values of a type and their texts stand for each other. -/
structure IsFaithful : Prop where
  tellsApart : schema.shape.tellsApart = true
  noAddress : schema.shape.mentions .address = false
  toParts_ofParts : ∀ parts, schema.toParts (schema.ofParts parts) = parts

variable {schema}

theorem IsFaithful.list (faithful : schema.IsFaithful) : schema.list.IsFaithful where
  tellsApart := faithful.tellsApart
  noAddress := faithful.noAddress
  toParts_ofParts := fun (parts : List schema.shape.Carrier) =>
    (List.map_map ..).trans ((List.map_congr_left fun part _ => faithful.toParts_ofParts part).trans
      (List.map_id parts))

section

variable (faithful : schema.IsFaithful) {model : Model}

include faithful

theorem areLegible (finite : ∀ number ∈ schema.reals model, number.isFinite = true)
    (back : ∀ number ∈ schema.reals model, ReadsBack number) :
    AreLegible (schema.shape.leaves (schema.toParts model)) := by
  rintro ⟨leaf, value⟩ member
  cases leaf with
  | real =>
    have own : value ∈ schema.reals model := List.mem_filterMap.mpr ⟨_, member, rfl⟩
    exact ⟨finite value own, back value own⟩
  | address =>
    have mentioned := schema.shape.mentions_of_mem_leaves _ _ member
    rw [faithful.noAddress] at mentioned
    cases mentioned
  | _ => trivial

/-- A value is read back from what is written for it. -/
theorem read_write (finite : ∀ number ∈ schema.reals model, number.isFinite = true)
    (back : ∀ number ∈ schema.reals model, ReadsBack number) :
    schema.read (schema.write model) = .ok model := by
  rw [read, write, schema.shape.read_write faithful.tellsApart _ (areLegible faithful finite back)]
  exact congrArg Except.ok (schema.ofParts_toParts model)

/-- A value is read back from its text. -/
theorem ofText_toText (finite : ∀ number ∈ schema.reals model, number.isFinite = true)
    (back : ∀ number ∈ schema.reals model, ReadsBack number) :
    schema.ofText (schema.toText model) = .ok model := by
  rw [ofText, toText, write, Value.readWhole_render (schema.shape.isComplete_write _)]
  dsimp only
  rw [← write, read_write faithful finite back]
  rfl

/-- What a text holds has finite floating-point numbers only. -/
theorem isFinite_of_ofText {text : String} (read : schema.ofText text = .ok model) :
    ∀ number ∈ schema.reals model, number.isFinite = true := by
  intro number member
  obtain ⟨_, -, read⟩ := schema.ofText_eq_ok_iff.mp read
  obtain ⟨parts, taken, rfl⟩ := ok_of_map read
  rw [reals, faithful.toParts_ofParts] at member
  obtain ⟨⟨leaf, value⟩, own, real⟩ := List.mem_filterMap.mp member
  obtain ⟨part, read⟩ := schema.shape.wereRead _ taken _ own
  cases leaf with
  | real => exact Option.some.inj real ▸ Leaf.isFinite_of_read read
  | _ => cases real

end

end Schema

end ServerMonitor.Json
