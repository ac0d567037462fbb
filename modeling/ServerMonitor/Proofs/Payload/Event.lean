/-
This file states that the text of an event describes itself. Its name tells the
kind of its payload, and so the model by which its data is to be read, although the
payload is written without its kind and payloads of several kinds can have one
text.
-/

import ServerMonitor.Cache.Binding
import ServerMonitor.Proofs.Model.Form

namespace ServerMonitor

open Json

/-! ### The names of kinds -/

namespace Kind

/-- The kind that is announced on a topic. -/
def ofTopic? (topic : String) : Option Kind := all.find? fun kind => kind.topic = topic

theorem ofTopic?_topic (kind : Kind) : ofTopic? kind.topic = some kind := by
  cases kind <;> decide

/-- The name of the events of a kind according to the list of bindings, which has no entry for
changes of collectors; of several names the last counts. -/
def eventName (kind : Kind) : String :=
  let names := Binding.standard.map (fun binding => (binding.kind, binding.topic)) ++
    [(collectorState, collectorState.topic)]
  (names.reverse.lookup kind).getD fallbackEventName

theorem eventName_eq_topic (kind : Kind) : kind.eventName = kind.topic := by
  cases kind <;> rfl

/-- No two kinds share a name. -/
theorem eventName_injective {kind other : Kind} (same : kind.eventName = other.eventName) :
    kind = other := by
  rw [eventName_eq_topic, eventName_eq_topic] at same
  exact Option.some.inj (by rw [← ofTopic?_topic kind, same, ofTopic?_topic other])

theorem isFaithful_schema : (kind : Kind) → kind.schema.IsFaithful
  | host => Form.host.isFaithful_schema
  | array => Form.array.isFaithful_schema
  | disks => (Form.list .disk).isFaithful_schema
  | shares => (Form.list .share).isFaithful_schema
  | containers => (Form.list .container).isFaithful_schema
  | machines => (Form.list .machine).isFaithful_schema
  | power => Form.power.isFaithful_schema
  | networkPower => Form.networkPower.isFaithful_schema
  | graphics => (Form.list .graphicsAdapter).isFaithful_schema
  | network => (Form.list .networkInterface).isFaithful_schema
  | hardware => Form.hardware.isFaithful_schema
  | license => Form.license.isFaithful_schema
  | notifications => Form.notifications.isFaithful_schema
  | unassigned => Form.unassignedDevices.isFaithful_schema
  | zfsPools => (Form.list .zfsPool).isFaithful_schema
  | zfsDatasets => (Form.list .zfsDataset).isFaithful_schema
  | zfsSnapshots => (Form.list .zfsSnapshot).isFaithful_schema
  | zfsCache => Form.zfsCache.isFaithful_schema
  | collectorState => Form.collectorState.isFaithful_schema

end Kind

/-! ### Payloads -/

namespace Payload

/-- The floating-point numbers of a payload. -/
def reals (payload : Payload) : List Binary64 := payload.kind.schema.reals payload.value

/-- Whether the floating-point numbers of a payload are finite and found again from their
digits. -/
def IsLegible (payload : Payload) : Prop :=
  ∀ number ∈ payload.reals, number.isFinite = true ∧ ReadsBack number

instance (payload : Payload) : Decidable payload.IsLegible :=
  inferInstanceAs (Decidable (∀ number ∈ payload.reals, _))

variable {payload : Payload}

theorem read_write (legible : payload.IsLegible) :
    payload.kind.schema.read payload.write = .ok payload.value :=
  Schema.read_write payload.kind.isFaithful_schema (fun number member => (legible number member).1)
    (fun number member => (legible number member).2)

theorem ofText_toText (legible : payload.IsLegible) :
    ofText payload.kind payload.toText = .ok payload := by
  rw [ofText]
  exact congrArg (Except.map _) (Schema.ofText_toText payload.kind.isFaithful_schema
    (fun number member => (legible number member).1)
    (fun number member => (legible number member).2))

theorem isComplete_write (payload : Payload) : payload.write.IsComplete :=
  payload.kind.schema.shape.isComplete_write _

end Payload

/-! ### Events -/

namespace Event

/-- The event that a text holds: an object of three members in their order, whose data is read by
the model that its name tells. -/
def ofText? (text : String) : Option Event :=
  match readWhole text with
  | (.object [(some "event", .text (some name)), (some "timestamp", .text (some written)),
      (some "data", data)] true, true) => do
    let kind ← Kind.ofTopic? name
    let timestamp ← Instant.read? written
    let value ← (kind.schema.read data).toOption
    some ⟨⟨kind, value⟩, timestamp⟩
  | _ => none

theorem writtenCharacter_of_isClockCharacter {character : Char}
    (clock : Instant.IsClockCharacter character) : writtenCharacter character = [character] := by
  rcases clock with digit | mark
  · obtain ⟨low, high⟩ := Char.isDigit_iff_toNat.mp digit
    refine writtenCharacter_of_plain (fun special => ?_) (fun control => ?_)
    · simp only [List.mem_cons, List.not_mem_nil, or_false] at special
      rcases special with rfl | rfl | rfl | rfl | rfl | rfl | rfl <;> cases digit
    · have zero : '0'.toNat = 48 := rfl
      omega
  · simp only [List.mem_cons, List.not_mem_nil, or_false] at mark
    rcases mark with rfl | rfl | rfl | rfl | rfl | rfl <;> rfl

theorem writtenText_name (event : Event) :
    writtenText event.name = '"' :: event.name.toList ++ ['"'] := by
  rw [name]
  cases event.payload.kind <;> rfl

/-- The data of an event is its payload's own text, character for character. -/
theorem toText_eq (event : Event) :
    event.toText = "\x7b\"event\":\"" ++ event.name ++ "\",\"timestamp\":\"" ++
      event.timestamp.written ++ "\",\"data\":" ++ event.payload.toText ++ "\x7d" := by
  have timestamp := writtenText_of_plain fun character member =>
    writtenCharacter_of_isClockCharacter (event.timestamp.isClockCharacter_written character member)
  have key (text : String) (plain : text ∈ ["event", "timestamp", "data"]) :
      writtenText text = '"' :: text.toList ++ ['"'] := by
    simp only [List.mem_cons, List.not_mem_nil, or_false] at plain
    rcases plain with rfl | rfl | rfl <;> rfl
  rw [← String.toList_inj, toText, Value.render, String.toList_ofList, write, Value.ofMembers]
  simp [Value.written, Value.writtenMembers, Value.ofText, key, event.writtenText_name, timestamp,
    Payload.toText, Value.render]

theorem readWhole_toText (event : Event) :
    readWhole event.toText = (.ofMembers [("event", .ofText event.name),
      ("timestamp", .ofText event.timestamp.written), ("data", event.payload.write)], true) :=
  Value.readWhole_render ⟨rfl, rfl, rfl, rfl, rfl, rfl, event.payload.isComplete_write, trivial⟩

theorem ofText?_toText {event : Event} (legible : event.payload.IsLegible) :
    ofText? event.toText = some event := by
  rw [ofText?, readWhole_toText]
  show (do
    let kind ← Kind.ofTopic? event.payload.kind.topic
    let timestamp ← Instant.read? event.timestamp.written
    let value ← (kind.schema.read event.payload.write).toOption
    some (⟨⟨kind, value⟩, timestamp⟩ : Event)) = some event
  rw [Kind.ofTopic?_topic, event.timestamp.read?_written]
  simp only [Option.bind_eq_bind, Option.bind_some]
  rw [Payload.read_write legible]
  rfl

/-- The text of an event is an object of its name, its timestamp and its payload's own text, in this
order, whatever the payload's texts contain. The name is that of the payload's kind and of no other,
and reading the data by the model of that kind gives the payload back. So events with the same text
are the same, although payloads of several kinds can have one text. Floating-point numbers must be
finite, and be found again from their digits. -/
theorem describes_itself (event : Event) :
    event.toText = "\x7b\"event\":\"" ++ event.name ++ "\",\"timestamp\":\"" ++
      event.timestamp.written ++ "\",\"data\":" ++ event.payload.toText ++ "\x7d" ∧
    readWhole event.toText = (.ofMembers [("event", .ofText event.name),
      ("timestamp", .ofText event.timestamp.written), ("data", event.payload.write)], true) ∧
    event.name = event.payload.kind.eventName ∧
    (∀ kind : Kind, kind.eventName = event.name → kind = event.payload.kind) ∧
    (event.payload.IsLegible →
      (∀ kind : Kind, kind.eventName = event.name →
        Payload.ofText kind event.payload.toText = .ok event.payload) ∧
      ofText? event.toText = some event ∧
      ∀ other : Event, other.payload.IsLegible → other.toText = event.toText → other = event) ∧
    ∃ first second : Payload, first.kind ≠ second.kind ∧ first.toText = second.toText := by
  have named : event.name = event.payload.kind.eventName :=
    event.payload.kind.eventName_eq_topic.symm
  have determined (kind : Kind) (same : kind.eventName = event.name) :
      kind = event.payload.kind := Kind.eventName_injective (same.trans named)
  refine ⟨event.toText_eq, event.readWhole_toText, named, determined, fun legible => ?_,
    ⟨.disks, []⟩, ⟨.shares, []⟩, nofun, rfl⟩
  refine ⟨fun kind same => ?_, ofText?_toText legible, fun other otherLegible same => ?_⟩
  · rw [determined kind same]
    exact Payload.ofText_toText legible
  · have read := ofText?_toText otherLegible
    rw [same, ofText?_toText legible] at read
    exact (Option.some.inj read).symm

/-- The data of one event looks like an event of another kind, and the data of two others is the
same. -/
theorem describes_itself_in_disguise :
    let share : Share := { (default : Share) with
      name := "\x7b\"event\":\"vm_list_update\"\x7d", usagePercent := ⟨0x40424ccccccccccd⟩ }
    let disguised : Event := ⟨⟨.shares, [share]⟩, .epoch⟩
    let disks : Event := ⟨⟨.disks, []⟩, .epoch⟩
    let shares : Event := ⟨⟨.shares, []⟩, .epoch⟩
    ofText? disguised.toText = some disguised ∧ disks.payload.toText = shares.payload.toText ∧
      disks.toText ≠ shares.toText := by
  intro share disguised disks shares
  have legible : disguised.payload.IsLegible ∧ disks.payload.IsLegible ∧
      shares.payload.IsLegible := by decide +kernel
  obtain ⟨-, -, -, -, read, -⟩ := disguised.describes_itself
  obtain ⟨-, -, -, -, alone, -⟩ := shares.describes_itself
  refine ⟨(read legible.1).2.1, rfl, fun same => ?_⟩
  have kinds := congrArg (·.payload.kind) ((alone legible.2.2).2.2 disks legible.2.1 same)
  exact absurd kinds (by decide)

end Event

end ServerMonitor
