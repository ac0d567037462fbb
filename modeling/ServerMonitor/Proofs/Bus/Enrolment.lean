/-
This file says what a request does to a mailbox. A mailbox gets under a topic by
subscribing only, and unless it is taken off it stays there for as long as its
receiver is alive; what others ask for adds at most the message that is published to
its queue. Every topic that is listed has a mailbox: subscribing lists both together,
and whatever removes registrations strikes off the topics that it leaves empty. So the
bus counts the topics with a mailbox and the mailboxes under a topic.
-/

import Mathlib.Data.Set.Card
import ServerMonitor.Proofs.Bus.Request

namespace ServerMonitor.Bus

variable {Message : Type}

/-! ### Topics and their mailboxes -/

/-- Every topic that is listed has a mailbox. -/
def Occupied (bus : Bus Message) : Prop := ∀ registration ∈ bus.registry, registration.2 ≠ []

theorem ne_nil_of_mem_enroll (id : Nat) (topic : String) {registry : List (String × List Nat)}
    (occupied : ∀ registration ∈ registry, registration.2 ≠ []) :
    ∀ registration ∈ enroll id topic registry, registration.2 ≠ [] := by
  induction registry with
  | nil =>
    intro registration member
    rw [List.mem_singleton.mp member]
    exact List.cons_ne_nil id []
  | cons head rest inductionHypothesis =>
    rw [List.forall_mem_cons] at occupied
    rw [enroll]
    split
    · refine List.forall_mem_cons.mpr ⟨?_, occupied.2⟩
      dsimp only
      split
      · exact occupied.1
      · exact List.append_ne_nil_of_right_ne_nil _ (List.cons_ne_nil id [])
    · exact List.forall_mem_cons.mpr ⟨occupied.1, inductionHypothesis occupied.2⟩

theorem ne_nil_of_mem_retain (keep : String → Nat → Bool) (registry : List (String × List Nat)) :
    ∀ registration ∈ retain keep registry, registration.2 ≠ [] := by
  intro registration member empty
  have kept := (List.mem_filter.mp member).2
  rw [empty] at kept
  cases kept

theorem occupied_withCapacity (capacity : Nat) : (withCapacity capacity : Bus Message).Occupied :=
  fun _ member => absurd member List.not_mem_nil

theorem occupied_retained (bus : Bus Message) (keep : String → Nat → Bool) :
    (bus.retained keep).Occupied :=
  ne_nil_of_mem_retain keep bus.registry

namespace Occupied

variable {bus : Bus Message}

theorem of_registry (occupied : bus.Occupied) {other : Bus Message}
    (registry : other.registry = bus.registry) : other.Occupied := by
  rw [Occupied, registry]
  exact occupied

theorem subscribe (occupied : bus.Occupied) (topics : List String) :
    (bus.subscribe topics).1.Occupied := by
  -- The topics are entered one after the other.
  suffices entered : ∀ registry : List (String × List Nat),
      (∀ registration ∈ registry, registration.2 ≠ []) →
      ∀ registration ∈ topics.foldl (fun registry topic => enroll bus.nextId topic registry)
        registry, registration.2 ≠ [] from
    entered bus.registry occupied
  induction topics with
  | nil => exact fun _ occupied => occupied
  | cons topic rest inductionHypothesis =>
    exact fun registry occupied =>
      inductionHypothesis _ (ne_nil_of_mem_enroll bus.nextId topic occupied)

theorem perform (occupied : bus.Occupied) (request : Request Message) :
    (bus.perform request).1.Occupied := by
  cases request with
  | subscribe topics => exact occupied.subscribe topics
  | unsubscribe id topics => exact bus.occupied_retained _
  | publish topic message =>
    show Occupied (if .gone ∈ (bus.scan message (bus.registered topic)).2 then
      (bus.scan message (bus.registered topic)).1.prune
      else (bus.scan message (bus.registered topic)).1)
    split
    · exact occupied_retained _ _
    · exact occupied.of_registry (bus.scan_frame message _).1
  | receive id => exact occupied.of_registry (bus.receive_frame id).1
  | drop id => exact occupied

end Occupied

/-! ### What the bus counts -/

theorem encard_members {Entry : Type} {entries : List Entry} (once : entries.Nodup) :
    {entry | entry ∈ entries}.encard = entries.length := by
  classical
  rw [← List.coe_toFinset, Set.encard_coe_eq_coe_finsetCard, List.toFinset_card_of_nodup once]

namespace Sound

variable {bus : Bus Message}

/-- The number of mailboxes under a topic counts no mailbox twice. -/
theorem encard_registered (sound : bus.Sound) (topic : String) :
    {id | id ∈ bus.registered topic}.encard = bus.subscriberCount topic :=
  encard_members (sound.registeredOnce topic)

/-- The number of topics counts those with a mailbox, each once. -/
theorem encard_topics (sound : bus.Sound) (occupied : bus.Occupied) :
    {topic | ∃ id, id ∈ bus.registered topic}.encard = bus.topicCount := by
  have listed : {topic | ∃ id, id ∈ bus.registered topic} =
      {topic | topic ∈ bus.registry.map Prod.fst} := by
    ext topic
    constructor
    · rintro ⟨id, member⟩
      obtain ⟨registration, found, rfl, -⟩ := (sound.mem_registered_iff id topic).mp member
      exact List.mem_map_of_mem found
    · intro present
      obtain ⟨registration, found, rfl⟩ := List.mem_map.mp present
      obtain ⟨id, listed⟩ := List.exists_mem_of_ne_nil _ (occupied registration found)
      exact ⟨id, (sound.mem_registered_iff id _).mpr ⟨registration, found, rfl, listed⟩⟩
  rw [listed, encard_members sound.distinctTopics, List.length_map]
  rfl

end Sound

/-! ### Who is under a topic after a request -/

/-- Whether a request registers its mailbox under a topic. -/
def Request.Joins (topic : String) : Request Message → Prop
  | .subscribe topics => topic ∈ topics
  | _ => False

/-- Whether a request takes a mailbox off a topic. -/
def Request.Leaves (id : Nat) (topic : String) : Request Message → Prop
  | .unsubscribe other topics => id = other ∧ (topics = [] ∨ topic ∈ topics)
  | _ => False

/-- Whether a request removes the registrations of mailboxes whose receivers are gone. -/
def Prunes (bus : Bus Message) : Request Message → Prop
  | .publish topic _ => ∃ stale ∈ bus.registered topic, bus.waiting? stale = none
  | _ => False

namespace Sound

variable {bus : Bus Message} {id : Nat}

/-- A mailbox gets under a topic by subscribing, and stays there unless it is taken off, or its
receiver is gone when the registrations of such mailboxes are removed. -/
theorem mem_registered_perform (sound : bus.Sound) (request : Request Message) (topic : String) :
    id ∈ (bus.perform request).1.registered topic ↔
      (id ∈ bus.registered topic ∧ ¬request.Leaves id topic ∧
        (bus.Prunes request → bus.waiting? id ≠ none)) ∨
      id = bus.nextId ∧ request.Joins topic := by
  cases request with
  | subscribe topics =>
    show id ∈ (bus.subscribe topics).1.registered topic ↔ _
    rw [sound.registered_subscribe]
    by_cases listed : topic ∈ topics <;> simp [Request.Joins, Request.Leaves, Prunes, listed]
  | unsubscribe other topics =>
    refine (sound.mem_registered_unsubscribe other id topics topic).trans ?_
    simp [Request.Joins, Request.Leaves, Prunes]
  | publish other message =>
    refine (sound.mem_registered_publish other topic message id).trans ?_
    simp [Request.Joins, Request.Leaves, Prunes]
  | receive other =>
    show id ∈ (bus.receive other).1.registered topic ↔ _
    rw [bus.registered_receive]
    simp [Request.Joins, Request.Leaves, Prunes]
  | drop other =>
    show id ∈ bus.registered topic ↔ _
    simp [Request.Joins, Request.Leaves, Prunes]

/-- No request registers a mailbox that there is. -/
theorem mem_registered_of_perform (sound : bus.Sound) (issued : id < bus.nextId)
    {request : Request Message} {topic : String}
    (registered : id ∈ (bus.perform request).1.registered topic) :
    id ∈ bus.registered topic := by
  rcases (sound.mem_registered_perform request topic).mp registered with ⟨old, -⟩ | ⟨new, -⟩
  · exact old
  · exact absurd new (Nat.ne_of_lt issued)

/-- No receiver comes to life again. -/
theorem gone_perform (sound : bus.Sound) (issued : id < bus.nextId)
    (gone : bus.waiting? id = none) (request : Request Message) :
    (bus.perform request).1.waiting? id = none := by
  cases request with
  | subscribe topics =>
    exact (sound.waiting?_subscribe topics id).trans ((if_neg (Nat.ne_of_lt issued)).trans gone)
  | unsubscribe other topics => exact gone
  | publish topic message =>
    refine (sound.waiting?_publish topic message id).trans ?_
    rw [gone]
    exact ite_self none
  | receive other =>
    refine (bus.waiting?_receive other id).trans ?_
    rw [gone]
    exact ite_self none
  | drop other =>
    refine (bus.waiting?_drop other id).trans ?_
    rw [gone]
    exact ite_self none

/-- Whoever still receives did so before, under the same topics, unless it was unsubscribed. -/
theorem mem_registered_perform_iff (sound : bus.Sound) (issued : id < bus.nextId)
    {request : Request Message} (alive : (bus.perform request).1.waiting? id ≠ none)
    (stays : ∀ topics, request ≠ .unsubscribe id topics) :
    bus.waiting? id ≠ none ∧
      ∀ topic, id ∈ (bus.perform request).1.registered topic ↔ id ∈ bus.registered topic := by
  have before : bus.waiting? id ≠ none := fun gone =>
    alive (sound.gone_perform issued gone request)
  refine ⟨before, fun topic => ⟨sound.mem_registered_of_perform issued, fun member => ?_⟩⟩
  refine (sound.mem_registered_perform request topic).mpr (.inl ⟨member, ?_, fun _ => before⟩)
  cases request with
  | unsubscribe other topics => exact fun leaves => stays topics (leaves.1 ▸ rfl)
  | _ => exact not_false

end Sound

theorem nextId_le_perform (bus : Bus Message) (request : Request Message) :
    bus.nextId ≤ (bus.perform request).1.nextId := by
  rw [nextId_perform]
  split <;> omega

/-- The same holds of a whole run. -/
theorem Sound.mem_registered_run_iff {bus : Bus Message} {id : Nat} (sound : bus.Sound)
    (issued : id < bus.nextId) {requests : List (Request Message)}
    (alive : (Machine.run Bus.perform bus requests).waiting? id ≠ none)
    (stays : ∀ topics, .unsubscribe id topics ∉ requests) :
    bus.waiting? id ≠ none ∧ ∀ topic,
      id ∈ (Machine.run Bus.perform bus requests).registered topic ↔ id ∈ bus.registered topic := by
  induction requests generalizing bus with
  | nil => exact ⟨alive, fun topic => Iff.rfl⟩
  | cons request rest inductionHypothesis =>
    have stillIssued := Nat.lt_of_lt_of_le issued (bus.nextId_le_perform request)
    obtain ⟨between, sameLater⟩ := inductionHypothesis (sound.perform request) stillIssued alive
      fun topics member => stays topics (List.mem_cons_of_mem _ member)
    obtain ⟨before, same⟩ := sound.mem_registered_perform_iff issued between
      fun topics own => stays topics (own ▸ List.mem_cons_self)
    exact ⟨before, fun topic => (sameLater topic).trans (same topic)⟩

/-! ### What others do to a queue -/

/-- The mailbox whose receiver a request uses. -/
def Request.receiver? : Request Message → Option Nat
  | .receive id | .drop id => some id
  | _ => none

/-- The message that a request puts into the queue of a mailbox. -/
def admitted (bus : Bus Message) (id : Nat) : Request Message → List Message
  | .publish topic message =>
    if id ∈ bus.registered topic ∧ bus.acceptance id = .queued then [message] else []
  | _ => []

/-- Whoever does not use the receiver of a mailbox adds at most a message to its queue. -/
theorem Sound.waiting?_perform {bus : Bus Message} {id : Nat} (sound : bus.Sound)
    (issued : id < bus.nextId) {request : Request Message}
    (foreign : request.receiver? ≠ some id) :
    (bus.perform request).1.waiting? id = (bus.waiting? id).map (· ++ bus.admitted id request) := by
  have same : bus.waiting? id = (bus.waiting? id).map (· ++ []) := by
    cases bus.waiting? id with
    | none => rfl
    | some queue => rw [Option.map_some, List.append_nil]
  cases request with
  | subscribe topics =>
    exact (sound.waiting?_subscribe topics id).trans ((if_neg (Nat.ne_of_lt issued)).trans same)
  | unsubscribe other topics => exact same
  | receive other =>
    have different : id ≠ other := fun same => foreign (congrArg some same.symm)
    exact (bus.waiting?_receive other id).trans ((if_neg different).trans same)
  | drop other =>
    have different : id ≠ other := fun same => foreign (congrArg some same.symm)
    exact (bus.waiting?_drop other id).trans ((if_neg different).trans same)
  | publish topic message =>
    refine (sound.waiting?_publish topic message id).trans ?_
    rw [admitted]
    by_cases registered : id ∈ bus.registered topic
    · unfold acceptance extended
      cases bus.waiting? id with
      | none => simp
      | some queue => by_cases room : queue.length < bus.capacity <;> simp [registered, room]
    · rw [if_neg registered, if_neg fun taken => registered taken.1]
      exact same

end ServerMonitor.Bus
