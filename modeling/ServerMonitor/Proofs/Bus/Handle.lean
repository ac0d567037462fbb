/-
This file asks what a bus makes of a mailbox that another bus created. A mailbox
is known by its number, and every bus counts its own mailboxes from one; so the
stranger stands for its namesake, the mailbox that this bus created with the same
number, if it created that many. All other mailboxes are safe.
-/

import ServerMonitor.Proofs.Bus.Closing

namespace ServerMonitor.Bus

variable {Message : Type}

/-! ### Numbers -/

instance (bus : Bus Message) (id : Nat) : Decidable (bus.Issued id) :=
  inferInstanceAs (Decidable (0 < id ∧ id < bus.nextId))

/-- Whether a request creates a mailbox. -/
def Request.creates : Request Message → Bool
  | .subscribe _ => true
  | _ => false

/-- How many mailboxes a list of requests creates. -/
def created (requests : List (Request Message)) : Nat := requests.countP Request.creates

/-- Mailboxes are numbered in the order in which they are created. -/
theorem nextId_after (capacity : Nat) (requests : List (Request Message)) :
    (after capacity requests).nextId = created requests + 1 := by
  induction requests using List.reverseRecOn with
  | nil => rfl
  | append_singleton past request inductionHypothesis =>
    rw [after, Machine.run_concat, nextId_perform, created, List.countP_append,
      List.countP_singleton]
    cases request with
    | subscribe topics => exact congrArg (· + 1) inductionHypothesis
    | unsubscribe id topics => exact inductionHypothesis
    | publish topic message => exact inductionHypothesis
    | receive id => exact inductionHypothesis
    | drop id => exact inductionHypothesis

theorem issued_after_iff (capacity : Nat) (requests : List (Request Message)) (id : Nat) :
    (after capacity requests).Issued id ↔ 0 < id ∧ id ≤ created requests := by
  rw [Issued, nextId_after, Nat.lt_succ_iff]

/-! ### Other mailboxes -/

namespace Sound

variable {bus : Bus Message} (sound : bus.Sound) (id : Nat) (topics : List String)

include sound

/-- Whose handle it may be, no registration goes but those of the mailbox with its number, and the
others keep their order. -/
theorem registered_unsubscribe_filter (topic : String) :
    ((bus.unsubscribe id topics).registered topic).filter (· ≠ id) =
      (bus.registered topic).filter (· ≠ id) := by
  rw [unsubscribe_eq, sound.registered_retained, List.filter_filter]
  refine List.filter_congr fun other _ => ?_
  by_cases same : other = id <;> simp [same]

theorem registered_unsubscribe_eq_iff (topic : String) :
    (bus.unsubscribe id topics).registered topic = bus.registered topic ↔
      (topics = [] ∨ topic ∈ topics → id ∉ bus.registered topic) := by
  rw [unsubscribe_eq, sound.registered_retained, List.filter_eq_self]
  constructor
  · intro kept named member
    have stays := kept id member
    simp at stays
    exact named.elim stays.1 stays.2
  · intro apart other member
    by_contra gone
    simp only [Bool.not_eq_true, Bool.not_eq_false', Bool.and_eq_true, decide_eq_true_eq,
      Bool.or_eq_true, List.isEmpty_iff, List.contains_eq_mem] at gone
    exact apart gone.2 (gone.1 ▸ member)

theorem isClosed_unsubscribe_of_ne {other : Nat} (different : other ≠ id) :
    (bus.unsubscribe id topics).isClosed other = bus.isClosed other := by
  have soundAfter : (bus.unsubscribe id topics).Sound := sound.retained _
  rw [Bool.eq_iff_iff, soundAfter.isClosed_iff, sound.isClosed_iff]
  refine forall_congr' fun topic => not_congr ?_
  rw [sound.mem_registered_unsubscribe]
  exact and_iff_left fun own => different own.1

theorem isClosed_unsubscribe_self_iff :
    (bus.unsubscribe id topics).isClosed id = true ↔
      ∀ topic, id ∈ bus.registered topic → topics = [] ∨ topic ∈ topics := by
  have soundAfter : (bus.unsubscribe id topics).Sound := sound.retained _
  rw [soundAfter.isClosed_iff]
  refine forall_congr' fun topic => ?_
  rw [sound.mem_registered_unsubscribe]
  simp only [true_and, not_and, not_not]

end Sound

/-! ### A mailbox of another bus -/

/-- What a bus does when it is asked to detach a mailbox that another bus created, in any state of
either. No mailbox but the one with the same number loses a registration or is closed, and nothing
that is queued is lost. The namesake exists if the bus created as many mailboxes; it loses its
registrations under the topics that are given, all if none is, and is closed if these were all it
had. So every registration stays exactly if the namesake has none under the topics given. -/
theorem detaching_reaches_only_the_namesake (capacity otherCapacity : Nat)
    (requests otherRequests : List (Request Message)) (id : Nat)
    (stranger : (after otherCapacity otherRequests).Issued id) (topics : List String) :
    let bus := after capacity requests
    let later := bus.unsubscribe id topics
    (∀ topic, (later.registered topic).filter (· ≠ id) =
      (bus.registered topic).filter (· ≠ id)) ∧
    (∀ other ≠ id, later.isClosed other = bus.isClosed other) ∧
    (∀ other, later.waiting? other = bus.waiting? other) ∧
    (bus.Issued id ↔ id ≤ created requests) ∧
    (∀ topic, id ∈ later.registered topic ↔
      id ∈ bus.registered topic ∧ ¬(topics = [] ∨ topic ∈ topics)) ∧
    (later.isClosed id = true ↔
      ∀ topic, id ∈ bus.registered topic → topics = [] ∨ topic ∈ topics) ∧
    ((∀ topic, later.registered topic = bus.registered topic) ↔
      ∀ topic, topics = [] ∨ topic ∈ topics → id ∉ bus.registered topic) ∧
    (¬bus.Issued id → ∀ topic, later.registered topic = bus.registered topic) := by
  intro bus later
  have sound : bus.Sound := Sound.run capacity requests
  have unaffected := sound.registered_unsubscribe_eq_iff id topics
  refine ⟨sound.registered_unsubscribe_filter id topics,
    fun other different => sound.isClosed_unsubscribe_of_ne id topics different,
    fun _ => rfl, ?_, fun topic => ?_, sound.isClosed_unsubscribe_self_iff id topics,
    forall_congr' unaffected, fun unknown topic => ?_⟩
  · rw [issued_after_iff]
    exact and_iff_right stranger.1
  · rw [sound.mem_registered_unsubscribe]
    simp only [true_and]
  · rw [unaffected]
    exact fun _ member => unknown (sound.registeredIssued topic id member)

/-- The second mailbox of another bus does not reach a bus that created only one. -/
theorem detaching_without_namesake :
    ((after 4 [.subscribe ["a"]] : Bus Nat).unsubscribe 2 []).registered "a" = [1] := by
  obtain ⟨-, -, -, -, -, -, -, nobody⟩ := detaching_reaches_only_the_namesake 4 4
    [.subscribe ["a"]] ([.subscribe ["b"], .subscribe ["c"]] : List (Request Nat)) 2 (by decide) []
  exact (nobody (by decide) "a").trans (by decide)

/-- It is not only its own handle that detaches a mailbox: the first mailbox of another bus closes
the first mailbox of this one. -/
theorem detached_by_stranger :
    ¬∀ (capacity otherCapacity : Nat) (requests otherRequests : List (Request Nat)) (id : Nat)
      (topics : List String), (after otherCapacity otherRequests).Issued id →
        let bus := after capacity requests
        let later := bus.unsubscribe id topics
        (∀ topic, later.registered topic = bus.registered topic) ∧
          ∀ other, bus.isClosed other = false → later.isClosed other = false := by
  intro onlyOwnHandle
  have stillOpen := (onlyOwnHandle 4 4 [.subscribe ["a"]] [.subscribe ["b"]] 1 [] (by decide)).2 1
    (by decide)
  exact absurd stillOpen (by decide)

end ServerMonitor.Bus
