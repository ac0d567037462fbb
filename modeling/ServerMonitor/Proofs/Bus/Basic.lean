/-
This file says what each operation of the bus does to the two things that can be
seen of it: the mailboxes registered under a topic, and the messages that wait
for a receiver that is alive. Every other statement about the bus is derived
from these and does not look into its lists again. The invariant `Sound` is what
makes the views faithful; every operation keeps it.
-/

import Mathlib.Data.List.Nodup
import ServerMonitor.Proofs.Bus.Registry

namespace ServerMonitor.Bus

variable {Message : Type}

/-- The messages that wait in a mailbox; nothing if its receiver is gone. -/
def waiting? (bus : Bus Message) (id : Nat) : Option (List Message) :=
  (bus.mailbox? id).map (·.queue)

theorem queued_eq (bus : Bus Message) (id : Nat) :
    bus.queued id = (bus.waiting? id).getD [] := rfl

/-- What becomes of a message offered to a mailbox. -/
def acceptance (bus : Bus Message) (id : Nat) : Acceptance :=
  match bus.waiting? id with
  | none => .gone
  | some queue => if queue.length < bus.capacity then .queued else .full

/-- A queue after a message was offered to it. -/
def extended (capacity : Nat) (message : Message) (queue : List Message) : List Message :=
  if queue.length < capacity then queue ++ [message] else queue

/-- A queue is changed by a message exactly if the mailbox takes it. -/
theorem acceptance_eq_queued_iff (bus : Bus Message) (id : Nat) :
    bus.acceptance id = .queued ↔ ∃ queue, bus.waiting? id = some queue ∧
      queue.length < bus.capacity := by
  unfold acceptance
  cases bus.waiting? id with
  | none => simp
  | some queue => by_cases room : queue.length < bus.capacity <;> simp [room]

theorem acceptance_eq_gone_iff (bus : Bus Message) (id : Nat) :
    bus.acceptance id = .gone ↔ bus.waiting? id = none := by
  unfold acceptance
  cases bus.waiting? id with
  | none => simp
  | some queue => by_cases room : queue.length < bus.capacity <;> simp [room]

/-! ### Changing mailboxes -/

theorem mailbox?_id (bus : Bus Message) (id : Nat) (mailbox : Mailbox Message)
    (found : bus.mailbox? id = some mailbox) : mailbox.id = id := by
  have matching := List.find?_some found
  exact of_decide_eq_true matching

/-- The bus after the queue of one mailbox was changed. -/
def requeue (bus : Bus Message) (id : Nat) (change : List Message → List Message) : Bus Message :=
  { bus with
    mailboxes := bus.mailboxes.map fun other =>
      if other.id = id then { other with queue := change other.queue } else other }

theorem waiting?_requeue (bus : Bus Message) (id other : Nat)
    (change : List Message → List Message) :
    (bus.requeue id change).waiting? other =
      if other = id then (bus.waiting? other).map change else bus.waiting? other := by
  have sameId : ((fun mailbox : Mailbox Message => decide (mailbox.id = other)) ∘
      fun mailbox : Mailbox Message =>
        if mailbox.id = id then { mailbox with queue := change mailbox.queue } else mailbox) =
      fun mailbox => decide (mailbox.id = other) := by
    funext mailbox
    by_cases same : mailbox.id = id <;> simp [same]
  unfold waiting? requeue mailbox?
  rw [List.find?_map, sameId]
  cases found : bus.mailboxes.find? fun mailbox => decide (mailbox.id = other) with
  | none => simp
  | some mailbox =>
    have matching : mailbox.id = other := mailbox?_id bus other mailbox found
    by_cases same : other = id <;> simp [same, matching]

/-! ### Offering a message -/

theorem offer_eq (bus : Bus Message) (message : Message) (id : Nat) :
    bus.offer message id =
      (if bus.acceptance id = .queued then bus.requeue id (· ++ [message]) else bus,
        bus.acceptance id) := by
  unfold offer acceptance waiting?
  cases bus.mailbox? id with
  | none => simp
  | some mailbox => by_cases room : mailbox.queue.length < bus.capacity <;> simp [room, requeue]

/-- Offers change nothing but queues. -/
theorem offer_frame (bus : Bus Message) (message : Message) (id : Nat) :
    (bus.offer message id).1.registry = bus.registry ∧
      (bus.offer message id).1.capacity = bus.capacity ∧
      (bus.offer message id).1.nextId = bus.nextId := by
  rw [offer_eq]
  by_cases taken : bus.acceptance id = .queued <;> simp [taken, requeue]

theorem waiting?_offer (bus : Bus Message) (message : Message) (id other : Nat) :
    (bus.offer message id).1.waiting? other =
      if other = id then (bus.waiting? other).map (extended bus.capacity message)
      else bus.waiting? other := by
  rw [offer_eq]
  by_cases same : other = id
  · subst same
    rw [if_pos rfl]
    cases held : bus.waiting? other with
    | none =>
      have gone : bus.acceptance other = .gone := (acceptance_eq_gone_iff bus other).mpr held
      simp [gone, held]
    | some queue =>
      by_cases room : queue.length < bus.capacity
      · simp [acceptance, held, room, waiting?_requeue, extended]
      · simp [acceptance, held, room, extended]
  · rw [if_neg same]
    by_cases taken : bus.acceptance id = .queued
    · simp [taken, waiting?_requeue, same]
    · simp [taken]

/-! ### The scan of a publication -/

theorem scan_frame (bus : Bus Message) (message : Message) (ids : List Nat) :
    (bus.scan message ids).1.registry = bus.registry ∧
      (bus.scan message ids).1.capacity = bus.capacity ∧
      (bus.scan message ids).1.nextId = bus.nextId := by
  induction ids generalizing bus with
  | nil => exact ⟨rfl, rfl, rfl⟩
  | cons id rest inductionHypothesis =>
    obtain ⟨registry, capacity, nextId⟩ := inductionHypothesis (bus.offer message id).1
    obtain ⟨registryOffer, capacityOffer, nextIdOffer⟩ := offer_frame bus message id
    exact ⟨registry.trans registryOffer, capacity.trans capacityOffer, nextId.trans nextIdOffer⟩

/-- Every mailbox that is scanned once is offered the message once, whatever came before it. -/
theorem waiting?_scan (bus : Bus Message) (message : Message) (ids : List Nat)
    (once : ids.Nodup) (other : Nat) :
    (bus.scan message ids).1.waiting? other =
      if other ∈ ids then (bus.waiting? other).map (extended bus.capacity message)
      else bus.waiting? other := by
  induction ids generalizing bus with
  | nil => simp [scan]
  | cons id rest inductionHypothesis =>
    rw [List.nodup_cons] at once
    show ((bus.offer message id).1.scan message rest).1.waiting? other = _
    rw [inductionHypothesis _ once.2, waiting?_offer, (offer_frame bus message id).2.1]
    by_cases same : other = id
    · subst same
      simp [once.1]
    · simp [same]

theorem scan_snd (bus : Bus Message) (message : Message) (ids : List Nat) (once : ids.Nodup) :
    (bus.scan message ids).2 = ids.map bus.acceptance := by
  induction ids generalizing bus with
  | nil => rfl
  | cons id rest inductionHypothesis =>
    rw [List.nodup_cons] at once
    have unmoved : ∀ other ∈ rest,
        (bus.offer message id).1.acceptance other = bus.acceptance other := by
      intro other member
      have different : other ≠ id := fun same => once.1 (same ▸ member)
      unfold acceptance
      rw [waiting?_offer, if_neg different, (offer_frame bus message id).2.1]
    show (bus.offer message id).2 :: ((bus.offer message id).1.scan message rest).2 = _
    rw [inductionHypothesis _ once.2, offer_eq bus message id, List.map_cons,
      ← List.map_congr_left unmoved, offer_eq bus message id]

/-! ### The invariant -/

/-- The bus created a mailbox with this identity. -/
def Issued (bus : Bus Message) (id : Nat) : Prop := 0 < id ∧ id < bus.nextId

/-- What every bus keeps, however it is used. -/
structure Sound (bus : Bus Message) : Prop where
  nextIdPositive : 0 < bus.nextId
  /-- No topic is listed twice. -/
  distinctTopics : (bus.registry.map Prod.fst).Nodup
  /-- No mailbox is registered twice under one topic. -/
  registeredOnce : ∀ topic, (bus.registered topic).Nodup
  registeredIssued : ∀ topic, ∀ id ∈ bus.registered topic, bus.Issued id
  waitingIssued : ∀ id, bus.waiting? id ≠ none → bus.Issued id

/-- What changes only queues keeps the invariant, as long as no receiver comes to life. -/
theorem Sound.of_registry {bus other : Bus Message} (sound : bus.Sound)
    (registry : other.registry = bus.registry) (nextId : other.nextId = bus.nextId)
    (gone : ∀ id, bus.waiting? id = none → other.waiting? id = none) : other.Sound where
  nextIdPositive := nextId ▸ sound.nextIdPositive
  distinctTopics := registry ▸ sound.distinctTopics
  registeredOnce topic := by
    rw [registered_eq, registry]
    exact sound.registeredOnce topic
  registeredIssued topic id member := by
    rw [registered_eq, registry] at member
    rw [Issued, nextId]
    exact sound.registeredIssued topic id member
  waitingIssued id alive := by
    rw [Issued, nextId]
    exact sound.waitingIssued id fun none => alive (gone id none)

theorem Sound.withCapacity (capacity : Nat) : (withCapacity capacity : Bus Message).Sound where
  nextIdPositive := Nat.one_pos
  distinctTopics := List.nodup_nil
  registeredOnce _ := List.nodup_nil
  registeredIssued _ _ member := absurd member List.not_mem_nil
  waitingIssued _ alive := absurd rfl alive

/-- The identity that comes next was not given to any mailbox yet. -/
theorem Sound.waiting?_nextId {bus : Bus Message} (sound : bus.Sound) :
    bus.waiting? bus.nextId = none := by
  by_contra alive
  exact Nat.lt_irrefl _ (sound.waitingIssued _ alive).2

/-- What is listed with a topic is what is found under it. -/
theorem Sound.registered_of_mem {bus : Bus Message} (sound : bus.Sound)
    {registration : String × List Nat} (member : registration ∈ bus.registry) :
    bus.registered registration.1 = registration.2 :=
  registeredIn_of_mem bus.registry sound.distinctTopics registration member

theorem Sound.mem_registered_iff {bus : Bus Message} (sound : bus.Sound) (id : Nat)
    (topic : String) :
    id ∈ bus.registered topic ↔
      ∃ registration ∈ bus.registry, registration.1 = topic ∧ id ∈ registration.2 := by
  constructor
  · intro member
    have present : topic ∈ bus.registry.map Prod.fst := by
      by_contra absent
      rw [registered_eq, registeredIn_of_notMem _ _ absent] at member
      cases member
    obtain ⟨registration, found, rfl⟩ := List.mem_map.mp present
    rw [sound.registered_of_mem found] at member
    exact ⟨registration, found, rfl, member⟩
  · rintro ⟨registration, found, rfl, listed⟩
    rwa [sound.registered_of_mem found]

/-- A mailbox is closed when no topic leads to it. -/
theorem Sound.isClosed_iff {bus : Bus Message} (sound : bus.Sound) (id : Nat) :
    bus.isClosed id = true ↔ ∀ topic, id ∉ bus.registered topic := by
  unfold isClosed
  rw [List.all_eq_true]
  constructor
  · intro unlisted topic member
    obtain ⟨registration, present, -, listed⟩ := (sound.mem_registered_iff id topic).mp member
    have absent := unlisted registration present
    simp [listed] at absent
  · intro unregistered registration present
    have absent := unregistered registration.1
    rw [sound.registered_of_mem present] at absent
    simp [absent]

/-! ### Creating a mailbox -/

theorem Sound.registered_subscribe {bus : Bus Message} (sound : bus.Sound)
    (topics : List String) (topic : String) :
    (bus.subscribe topics).1.registered topic =
      if topic ∈ topics then bus.registered topic ++ [bus.nextId] else bus.registered topic := by
  have fresh : bus.nextId ∉ registeredIn bus.registry topic := fun member =>
    Nat.lt_irrefl _ (sound.registeredIssued topic _ member).2
  show registeredIn (topics.foldl _ bus.registry) topic = _
  rw [registeredIn_foldl_enroll, registered_eq]
  simp [fresh]

theorem Sound.waiting?_subscribe {bus : Bus Message} (sound : bus.Sound)
    (topics : List String) (id : Nat) :
    (bus.subscribe topics).1.waiting? id =
      if id = bus.nextId then some [] else bus.waiting? id := by
  have added : (bus.subscribe topics).1.waiting? id =
      ((bus.mailbox? id).or
        (if id = bus.nextId then some ⟨bus.nextId, []⟩ else none)).map (·.queue) := by
    unfold waiting? mailbox? subscribe
    rw [List.find?_append]
    by_cases same : id = bus.nextId
    · simp [same]
    · simp [same, Ne.symm same]
  rw [added]
  by_cases same : id = bus.nextId
  · subst same
    have unused := sound.waiting?_nextId
    unfold waiting? at unused
    rw [Option.map_eq_none_iff.mp unused]
    simp
  · simp [same, waiting?]

theorem nodup_topics_foldl_enroll (id : Nat) (topics : List String)
    (registry : List (String × List Nat)) (distinct : (registry.map Prod.fst).Nodup) :
    ((topics.foldl (fun registry topic => enroll id topic registry) registry).map
      Prod.fst).Nodup := by
  induction topics generalizing registry with
  | nil => exact distinct
  | cons topic rest inductionHypothesis =>
    exact inductionHypothesis _ (nodup_topics_enroll id topic registry distinct)

theorem Sound.subscribe {bus : Bus Message} (sound : bus.Sound) (topics : List String) :
    (bus.subscribe topics).1.Sound := by
  have older (id : Nat) (issued : bus.Issued id) : (bus.subscribe topics).1.Issued id :=
    ⟨issued.1, Nat.lt_succ_of_lt issued.2⟩
  have newest : (bus.subscribe topics).1.Issued bus.nextId :=
    ⟨sound.nextIdPositive, Nat.lt_succ_self _⟩
  constructor
  · exact Nat.succ_pos _
  · exact nodup_topics_foldl_enroll _ _ _ sound.distinctTopics
  · intro topic
    rw [sound.registered_subscribe]
    split
    · refine List.nodup_append.mpr ⟨sound.registeredOnce topic, List.nodup_singleton _, ?_⟩
      intro id member other fresh same
      rw [List.mem_singleton] at fresh
      exact Nat.ne_of_lt (sound.registeredIssued topic id member).2 (same.trans fresh)
    · exact sound.registeredOnce topic
  · intro topic id member
    rw [sound.registered_subscribe] at member
    split at member
    · rcases List.mem_append.mp member with old | fresh
      · exact older id (sound.registeredIssued topic id old)
      · exact List.mem_singleton.mp fresh ▸ newest
    · exact older id (sound.registeredIssued topic id member)
  · intro id alive
    rw [sound.waiting?_subscribe] at alive
    split at alive
    · rename_i same
      exact same ▸ newest
    · exact older id (sound.waitingIssued id alive)

/-! ### Keeping some registrations -/

/-- The bus after only the registrations that a test accepts were kept. -/
def retained (bus : Bus Message) (keep : String → Nat → Bool) : Bus Message :=
  { bus with registry := retain keep bus.registry }

theorem Sound.registered_retained {bus : Bus Message} (sound : bus.Sound)
    (keep : String → Nat → Bool) (topic : String) :
    (bus.retained keep).registered topic = (bus.registered topic).filter (keep topic) :=
  registeredIn_retain keep bus.registry sound.distinctTopics topic

theorem Sound.retained {bus : Bus Message} (sound : bus.Sound) (keep : String → Nat → Bool) :
    (bus.retained keep).Sound where
  nextIdPositive := sound.nextIdPositive
  distinctTopics := sound.distinctTopics.sublist (topics_retain_sublist keep bus.registry)
  registeredOnce topic := by
    rw [sound.registered_retained]
    exact (sound.registeredOnce topic).filter _
  registeredIssued topic id member := by
    rw [sound.registered_retained] at member
    exact sound.registeredIssued topic id (List.mem_of_mem_filter member)
  waitingIssued := sound.waitingIssued

theorem unsubscribe_eq (bus : Bus Message) (id : Nat) (topics : List String) :
    bus.unsubscribe id topics = bus.retained fun topic other =>
      !(other = id && (topics.isEmpty || topics.contains topic)) := rfl

theorem prune_eq (bus : Bus Message) :
    bus.prune = bus.retained fun _ id => (bus.mailbox? id).isSome := rfl

/-- An unsubscribed mailbox keeps the topics that are not given; none if none is given. -/
theorem Sound.mem_registered_unsubscribe {bus : Bus Message} (sound : bus.Sound)
    (id other : Nat) (topics : List String) (topic : String) :
    other ∈ (bus.unsubscribe id topics).registered topic ↔
      other ∈ bus.registered topic ∧ ¬(other = id ∧ (topics = [] ∨ topic ∈ topics)) := by
  rw [unsubscribe_eq, sound.registered_retained, List.mem_filter]
  refine and_congr_right fun _ => ?_
  simp only [Bool.not_eq_true', Bool.and_eq_false_imp, decide_eq_true_eq, Bool.or_eq_false_iff,
    List.isEmpty_eq_false_iff, List.contains_eq_mem, decide_eq_false_iff_not, not_and, not_or,
    ne_eq]

/-! ### Losing a receiver -/

theorem waiting?_drop (bus : Bus Message) (id other : Nat) :
    (bus.drop id).waiting? other = if other = id then none else bus.waiting? other := by
  have tests : (fun mailbox : Mailbox Message =>
      decide (decide (mailbox.id ≠ id) = true ∧ decide (mailbox.id = other) = true)) =
      fun mailbox => if other = id then false else decide (mailbox.id = other) := by
    funext mailbox
    by_cases same : other = id <;> by_cases here : mailbox.id = other <;> simp [same, here]
  unfold waiting? mailbox? drop
  rw [List.find?_filter, tests]
  by_cases same : other = id <;> simp [same]

theorem Sound.drop {bus : Bus Message} (sound : bus.Sound) (id : Nat) : (bus.drop id).Sound := by
  refine sound.of_registry rfl rfl fun other gone => ?_
  rw [waiting?_drop, gone, ite_self]

/-! ### Publishing -/

theorem publish_frame (bus : Bus Message) (topic : String) (message : Message) :
    (bus.publish topic message).1.capacity = bus.capacity ∧
      (bus.publish topic message).1.nextId = bus.nextId := by
  obtain ⟨_, capacity, nextId⟩ := bus.scan_frame message (bus.registered topic)
  rw [← capacity, ← nextId]
  unfold publish
  dsimp only
  split <;> exact ⟨rfl, rfl⟩

theorem Sound.publish_snd {bus : Bus Message} (sound : bus.Sound) (topic : String)
    (message : Message) :
    (bus.publish topic message).2 =
      (bus.registered topic).countP fun id => decide (bus.acceptance id = .queued) := by
  show (bus.scan message (bus.registered topic)).2.count .queued = _
  rw [bus.scan_snd message _ (sound.registeredOnce topic), List.count_eq_countP, List.countP_map]
  rfl

/-- A publication that meets a mailbox without a receiver removes all registrations of such
mailboxes; any other leaves the registrations alone. -/
theorem Sound.publish_fst {bus : Bus Message} (sound : bus.Sound) (topic : String)
    (message : Message) :
    (bus.publish topic message).1 =
      if .gone ∈ (bus.registered topic).map bus.acceptance then
        (bus.scan message (bus.registered topic)).1.prune
      else (bus.scan message (bus.registered topic)).1 := by
  rw [← bus.scan_snd message _ (sound.registeredOnce topic)]
  rfl

theorem Sound.waiting?_publish {bus : Bus Message} (sound : bus.Sound) (topic : String)
    (message : Message) (id : Nat) :
    (bus.publish topic message).1.waiting? id =
      if id ∈ bus.registered topic then (bus.waiting? id).map (extended bus.capacity message)
      else bus.waiting? id := by
  rw [← bus.waiting?_scan message _ (sound.registeredOnce topic), sound.publish_fst]
  split <;> rfl

theorem Sound.scan {bus : Bus Message} (sound : bus.Sound) (message : Message)
    (ids : List Nat) (once : ids.Nodup) : (bus.scan message ids).1.Sound := by
  obtain ⟨registry, _, nextId⟩ := bus.scan_frame message ids
  refine sound.of_registry registry nextId fun id gone => ?_
  rw [waiting?_scan bus message ids once, gone, Option.map_none, ite_self]

theorem Sound.publish {bus : Bus Message} (sound : bus.Sound) (topic : String)
    (message : Message) : (bus.publish topic message).1.Sound := by
  have scanned := sound.scan message _ (sound.registeredOnce topic)
  rw [sound.publish_fst]
  split
  · exact scanned.retained _
  · exact scanned

/-- A publication that meets a mailbox without a receiver removes the registrations of all such
mailboxes, and every other registration stays. -/
theorem Sound.mem_registered_publish {bus : Bus Message} (sound : bus.Sound)
    (topic other : String) (message : Message) (id : Nat) :
    id ∈ (bus.publish topic message).1.registered other ↔
      id ∈ bus.registered other ∧
        ((∃ stale ∈ bus.registered topic, bus.waiting? stale = none) →
          bus.waiting? id ≠ none) := by
  have scanned := sound.scan message _ (sound.registeredOnce topic)
  have registry : (bus.scan message (bus.registered topic)).1.registered other =
      bus.registered other := by
    rw [registered_eq, (bus.scan_frame message _).1, registered_eq]
  have alive : (bus.scan message (bus.registered topic)).1.waiting? id = none ↔
      bus.waiting? id = none := by
    rw [waiting?_scan bus message _ (sound.registeredOnce topic)]
    split
    · rw [Option.map_eq_none_iff]
    · rfl
  have meets : .gone ∈ (bus.registered topic).map bus.acceptance ↔
      ∃ stale ∈ bus.registered topic, bus.waiting? stale = none := by
    simp only [List.mem_map, acceptance_eq_gone_iff]
  rw [sound.publish_fst]
  by_cases stale : .gone ∈ (bus.registered topic).map bus.acceptance
  · have kept : ((bus.scan message (bus.registered topic)).1.mailbox? id).isSome = true ↔
        bus.waiting? id ≠ none := by
      rw [Ne, ← alive, waiting?, Option.map_eq_none_iff, Option.isSome_iff_ne_none]
    rw [if_pos stale, prune_eq, scanned.registered_retained, List.mem_filter, registry, kept]
    exact and_congr_right fun _ => (imp_iff_right (meets.mp stale)).symm
  · rw [if_neg stale, registry]
    exact (and_iff_left fun found => absurd (meets.mpr found) stale).symm

/-! ### Receiving -/

/-- What a receiver finds. -/
theorem receive_snd (bus : Bus Message) (id : Nat) :
    (bus.receive id).2 =
      match bus.waiting? id with
      | none => .closed
      | some (message :: _) => .message message
      | some [] => if bus.isClosed id then .closed else .empty := by
  unfold receive waiting?
  cases bus.mailbox? id with
  | none => rfl
  | some mailbox =>
    simp only [Option.map_some]
    cases mailbox.queue with
    | nil => rfl
    | cons message rest => rfl

theorem receive_fst (bus : Bus Message) (id : Nat) :
    (bus.receive id).1 =
      match bus.waiting? id with
      | some (_ :: rest) => bus.requeue id fun _ => rest
      | _ => bus := by
  unfold receive waiting?
  cases bus.mailbox? id with
  | none => rfl
  | some mailbox =>
    simp only [Option.map_some]
    cases mailbox.queue with
    | nil => rfl
    | cons message rest => rfl

theorem receive_frame (bus : Bus Message) (id : Nat) :
    (bus.receive id).1.registry = bus.registry ∧
      (bus.receive id).1.capacity = bus.capacity ∧
      (bus.receive id).1.nextId = bus.nextId := by
  rw [receive_fst]
  split <;> exact ⟨rfl, rfl, rfl⟩

/-- Receiving takes the oldest message off the queue. -/
theorem waiting?_receive (bus : Bus Message) (id other : Nat) :
    (bus.receive id).1.waiting? other =
      if other = id then (bus.waiting? other).map List.tail else bus.waiting? other := by
  rw [receive_fst]
  by_cases same : other = id
  · subst same
    rw [if_pos rfl]
    cases waiting : bus.waiting? other with
    | none => exact waiting
    | some queue =>
      cases queue with
      | nil => exact waiting
      | cons message rest =>
        dsimp only
        rw [waiting?_requeue, if_pos rfl, waiting]
        rfl
  · rw [if_neg same]
    split
    · rw [waiting?_requeue, if_neg same]
    · rfl

theorem registered_receive (bus : Bus Message) (id : Nat) (topic : String) :
    (bus.receive id).1.registered topic = bus.registered topic := by
  rw [registered_eq, (bus.receive_frame id).1, registered_eq]

theorem Sound.receive {bus : Bus Message} (sound : bus.Sound) (id : Nat) :
    (bus.receive id).1.Sound := by
  obtain ⟨registry, _, nextId⟩ := bus.receive_frame id
  refine sound.of_registry registry nextId fun other gone => ?_
  rw [waiting?_receive, gone, Option.map_none, ite_self]

end ServerMonitor.Bus
