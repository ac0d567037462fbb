/-
This file proves that the bus delivers as the switchboard does. A bus serves a
subscriber when the mailbox holds the subscriber's queue and is registered under
the subscriber's topics. Dropped receivers are the one point at which the two
differ: the bus may have pruned registrations that the subscriber still counts
as its own, but a mailbox without a receiver takes nothing either way. Every
request keeps every subscriber served; the answers are then equal, and what a
receiver was given can be compared with what its mailbox accepted.
-/

import Mathlib.Data.List.Nodup
import Mathlib.Data.List.Perm.Lattice
import ServerMonitor.Proofs.Bus.Switchboard

namespace ServerMonitor

open Bus

variable {Message : Type}

/-! ### One subscriber -/

/-- The bus treats a mailbox as the subscriber expects. -/
structure Bus.Serves (bus : Bus Message) (subscriber : Subscriber Message) : Prop where
  waiting : bus.waiting? subscriber.id =
    if subscriber.listening then some subscriber.queue else none
  /-- The mailbox is registered under no topic that the subscriber does not have. -/
  wanted : ∀ topic, subscriber.id ∈ bus.registered topic → topic ∈ subscriber.topics
  /-- A mailbox with a receiver is registered under all topics of the subscriber. -/
  registered : subscriber.listening = true → ∀ topic ∈ subscriber.topics,
    subscriber.id ∈ bus.registered topic

namespace Bus.Serves

variable {bus : Bus Message} {subscriber : Subscriber Message}

theorem mem_registered_iff (serves : bus.Serves subscriber)
    (listening : subscriber.listening = true) (topic : String) :
    subscriber.id ∈ bus.registered topic ↔ topic ∈ subscriber.topics :=
  ⟨serves.wanted topic, serves.registered listening topic⟩

/-- A message offered to the mailbox is taken exactly if the subscriber accepts it. -/
theorem accepts_iff (serves : bus.Serves subscriber) (topic : String) :
    subscriber.accepts bus.capacity topic = true ↔
      subscriber.id ∈ bus.registered topic ∧ bus.acceptance subscriber.id = .queued := by
  rw [acceptance_eq_queued_iff, serves.waiting]
  cases listening : subscriber.listening with
  | false => simp [Subscriber.accepts, listening]
  | true => simp [Subscriber.accepts, listening, serves.mem_registered_iff listening]

/-- A new mailbox is served with an empty queue. -/
theorem newest (sound : bus.Sound) (topics : List String) :
    (bus.subscribe topics).1.Serves ⟨bus.nextId, topics.toFinset, [], true⟩ := by
  have fresh (topic : String) : bus.nextId ∉ bus.registered topic := fun registered =>
    Nat.lt_irrefl _ (sound.registeredIssued topic _ registered).2
  refine ⟨?_, fun topic registered => ?_, fun _ topic wanted => ?_⟩
  · show (bus.subscribe topics).1.waiting? bus.nextId = some []
    rw [sound.waiting?_subscribe, if_pos rfl]
  · change bus.nextId ∈ (bus.subscribe topics).1.registered topic at registered
    rw [sound.registered_subscribe] at registered
    by_contra unwanted
    rw [if_neg fun listed => unwanted (List.mem_toFinset.mpr listed)] at registered
    exact fresh topic registered
  · show bus.nextId ∈ (bus.subscribe topics).1.registered topic
    rw [sound.registered_subscribe, if_pos (List.mem_toFinset.mp wanted)]
    exact List.mem_append_right _ (List.mem_singleton_self _)

theorem subscribe (serves : bus.Serves subscriber) (sound : bus.Sound)
    (issued : subscriber.id < bus.nextId) (topics : List String) :
    (bus.subscribe topics).1.Serves subscriber := by
  have different : subscriber.id ≠ bus.nextId := Nat.ne_of_lt issued
  have same (topic : String) : subscriber.id ∈ (bus.subscribe topics).1.registered topic ↔
      subscriber.id ∈ bus.registered topic := by
    rw [sound.registered_subscribe]
    split
    · simp [different]
    · rfl
  constructor
  · rw [sound.waiting?_subscribe, if_neg different]
    exact serves.waiting
  · intro topic member
    exact serves.wanted topic ((same topic).mp member)
  · intro listening topic member
    exact (same topic).mpr (serves.registered listening topic member)

theorem unsubscribe (serves : bus.Serves subscriber) (sound : bus.Sound) (id : Nat)
    (topics : List String) :
    (bus.unsubscribe id topics).Serves
      (subscriber.after bus.capacity (.unsubscribe id topics)) := by
  rw [Subscriber.after]
  by_cases own : id = subscriber.id
  · rw [if_pos own]
    have left (topic : String) :
        topic ∈ (if topics = [] then ∅ else subscriber.topics \ topics.toFinset) ↔
          topic ∈ subscriber.topics ∧ ¬(topics = [] ∨ topic ∈ topics) := by
      by_cases empty : topics = [] <;> simp [empty]
    refine ⟨serves.waiting, fun topic member => ?_, fun listening topic member => ?_⟩
    · rw [sound.mem_registered_unsubscribe] at member
      exact (left topic).mpr ⟨serves.wanted topic member.1, fun removed =>
        member.2 ⟨own.symm, removed⟩⟩
    · obtain ⟨kept, outside⟩ := (left topic).mp member
      exact (sound.mem_registered_unsubscribe _ _ _ _).mpr
        ⟨serves.registered listening topic kept, fun removed => outside removed.2⟩
  · rw [if_neg own]
    have same (topic : String) : subscriber.id ∈ (bus.unsubscribe id topics).registered topic ↔
        subscriber.id ∈ bus.registered topic := by
      rw [sound.mem_registered_unsubscribe]
      exact and_iff_left fun removed => own removed.1.symm
    exact ⟨serves.waiting, fun topic member => serves.wanted topic ((same topic).mp member),
      fun listening topic member => (same topic).mpr (serves.registered listening topic member)⟩

theorem publish (serves : bus.Serves subscriber) (sound : bus.Sound) (topic : String)
    (message : Message) :
    (bus.publish topic message).1.Serves
      (subscriber.after bus.capacity (.publish topic message)) := by
  have registered (listening : subscriber.listening = true) (other : String)
      (member : other ∈ subscriber.topics) :
      subscriber.id ∈ (bus.publish topic message).1.registered other := by
    rw [sound.mem_registered_publish, serves.waiting, if_pos listening]
    exact ⟨serves.registered listening other member, fun _ => Option.some_ne_none _⟩
  have wanted (other : String)
      (member : subscriber.id ∈ (bus.publish topic message).1.registered other) :
      other ∈ subscriber.topics :=
    serves.wanted other ((sound.mem_registered_publish topic other message _).mp member).1
  have waiting : (bus.publish topic message).1.waiting? subscriber.id =
      if subscriber.listening then
        some (if subscriber.accepts bus.capacity topic then subscriber.queue ++ [message]
          else subscriber.queue)
      else none := by
    rw [sound.waiting?_publish, serves.waiting]
    cases listening : subscriber.listening with
    | false => simp
    | true =>
      by_cases here : topic ∈ subscriber.topics <;>
        simp [serves.mem_registered_iff listening, Subscriber.accepts, extended, listening, here]
  rw [Subscriber.after]
  by_cases accepts : subscriber.accepts bus.capacity topic = true
  · rw [if_pos accepts]
    rw [if_pos accepts] at waiting
    exact ⟨waiting, wanted, registered⟩
  · rw [if_neg accepts]
    rw [if_neg accepts] at waiting
    exact ⟨waiting, wanted, registered⟩

theorem receive (serves : bus.Serves subscriber) (id : Nat) :
    (bus.receive id).1.Serves (subscriber.after bus.capacity (.receive id)) := by
  rw [Subscriber.after]
  by_cases own : id = subscriber.id ∧ subscriber.listening = true
  · rw [if_pos own]
    refine ⟨?_, fun topic member => ?_, fun listening topic member => ?_⟩
    · rw [waiting?_receive, if_pos own.1.symm, serves.waiting, if_pos own.2, if_pos own.2]
      rfl
    · rw [registered_receive] at member
      exact serves.wanted topic member
    · rw [registered_receive]
      exact serves.registered listening topic member
  · rw [if_neg own]
    refine ⟨?_, fun topic member => ?_, fun listening topic member => ?_⟩
    · rw [waiting?_receive, serves.waiting]
      by_cases listening : subscriber.listening = true
      · rw [if_neg fun same => own ⟨same.symm, listening⟩]
      · simp [listening]
    · rw [registered_receive] at member
      exact serves.wanted topic member
    · rw [registered_receive]
      exact serves.registered listening topic member

theorem drop (serves : bus.Serves subscriber) (id : Nat) :
    (bus.drop id).Serves (subscriber.after bus.capacity (.drop id)) := by
  rw [Subscriber.after]
  by_cases own : id = subscriber.id
  · rw [if_pos own]
    refine ⟨?_, serves.wanted, fun listening => by cases listening⟩
    rw [waiting?_drop, if_pos own.symm]
    rfl
  · rw [if_neg own]
    refine ⟨?_, serves.wanted, serves.registered⟩
    rw [waiting?_drop, if_neg (Ne.symm own)]
    exact serves.waiting

/-- Every request keeps a subscriber served. -/
theorem perform (serves : bus.Serves subscriber) (sound : bus.Sound)
    (issued : subscriber.id < bus.nextId) (request : Request Message) :
    (bus.perform request).1.Serves (subscriber.after bus.capacity request) := by
  cases request with
  | subscribe topics => exact serves.subscribe sound issued topics
  | unsubscribe id topics => exact serves.unsubscribe sound id topics
  | publish topic message => exact serves.publish sound topic message
  | receive id => exact serves.receive id
  | drop id => exact serves.drop id

end Bus.Serves

/-! ### All subscribers -/

/-- The bus and the switchboard stand for the same mailboxes. -/
structure Bus.Represents (bus : Bus Message) (board : Switchboard Message) : Prop where
  sound : bus.Sound
  capacity : bus.capacity = board.capacity
  nextId : bus.nextId = board.subscribers.length + 1
  /-- Subscribers are numbered from one on. -/
  ids : board.subscribers.map (·.id) = List.range' 1 board.subscribers.length
  serves : ∀ subscriber ∈ board.subscribers, bus.Serves subscriber

theorem Bus.Represents.withCapacity (capacity : Nat) :
    (Bus.withCapacity capacity : Bus Message).Represents (.withCapacity capacity) where
  sound := .withCapacity capacity
  capacity := rfl
  nextId := rfl
  ids := rfl
  serves _ member := absurd member List.not_mem_nil

namespace Bus.Represents

variable {bus : Bus Message} {board : Switchboard Message}

theorem mem_ids_iff (represents : bus.Represents board) (id : Nat) :
    id ∈ board.subscribers.map (·.id) ↔ bus.Issued id := by
  rw [represents.ids, List.mem_range'_1, Issued, represents.nextId, Nat.add_comm 1]
  rfl

theorem issued (represents : bus.Represents board) (subscriber : Subscriber Message)
    (member : subscriber ∈ board.subscribers) : bus.Issued subscriber.id :=
  (represents.mem_ids_iff _).mp (List.mem_map_of_mem member)

theorem nodup_ids (represents : bus.Represents board) :
    (board.subscribers.map (·.id)).Nodup := by
  rw [represents.ids]
  exact List.nodup_range'

theorem subscriber?_of_mem (represents : bus.Represents board) (subscriber : Subscriber Message)
    (member : subscriber ∈ board.subscribers) :
    board.subscriber? subscriber.id = some subscriber := by
  obtain ⟨found, same⟩ : ∃ found, board.subscriber? subscriber.id = some found :=
    Option.isSome_iff_exists.mp (List.find?_isSome.mpr ⟨subscriber, member, by simp⟩)
  have sameId : found.id = subscriber.id := by simpa using List.find?_some same
  rw [same, List.inj_on_of_nodup_map represents.nodup_ids (List.mem_of_find?_eq_some same) member
    sameId]

theorem subscriber?_of_not_issued (represents : bus.Represents board) (id : Nat)
    (unknown : ¬bus.Issued id) : board.subscriber? id = none := by
  rw [← represents.mem_ids_iff] at unknown
  refine List.find?_eq_none.mpr fun subscriber member matching => unknown ?_
  exact of_decide_eq_true matching ▸ List.mem_map_of_mem member

/-! ### Answers -/

/-- As many mailboxes take a message as subscribers accept it. -/
theorem countP_accepts (represents : bus.Represents board) (topic : String) :
    (bus.registered topic).countP (fun id => decide (bus.acceptance id = .queued)) =
      board.subscribers.countP fun subscriber => subscriber.accepts board.capacity topic := by
  rw [List.countP_eq_length_filter, List.countP_eq_length_filter,
    ← List.length_map (f := Subscriber.id)]
  refine List.Perm.length_eq ((List.perm_ext_iff_of_nodup
    ((represents.sound.registeredOnce topic).filter _)
    (represents.nodup_ids.sublist (List.filter_sublist.map _))).mpr fun id => ?_)
  rw [← represents.capacity, List.mem_filter, decide_eq_true_eq, List.mem_map]
  constructor
  · rintro ⟨registered, taken⟩
    have issued := represents.sound.registeredIssued topic id registered
    obtain ⟨subscriber, member, rfl⟩ := List.mem_map.mp ((represents.mem_ids_iff id).mpr issued)
    exact ⟨subscriber, List.mem_filter.mpr ⟨member,
      ((represents.serves subscriber member).accepts_iff topic).mpr ⟨registered, taken⟩⟩, rfl⟩
  · rintro ⟨subscriber, member, rfl⟩
    obtain ⟨member, accepts⟩ := List.mem_filter.mp member
    exact ((represents.serves subscriber member).accepts_iff topic).mp accepts

/-- A receiver finds what is at the front of the subscriber's queue. -/
theorem receive_snd_of_mem (represents : bus.Represents board)
    (subscriber : Subscriber Message) (member : subscriber ∈ board.subscribers) :
    (bus.receive subscriber.id).2 = subscriber.front := by
  have serves := represents.serves subscriber member
  rw [receive_snd, serves.waiting, Subscriber.front]
  cases listening : subscriber.listening with
  | false => rfl
  | true =>
    cases subscriber.queue with
    | cons message rest => rfl
    | nil =>
      have closed : bus.isClosed subscriber.id = true ↔ subscriber.topics = ∅ := by
        rw [represents.sound.isClosed_iff, Finset.eq_empty_iff_forall_notMem]
        exact forall_congr' fun topic => not_congr (serves.mem_registered_iff listening topic)
      simp [closed]

theorem perform_snd (represents : bus.Represents board) (request : Request Message) :
    (bus.perform request).2 = board.reply request := by
  cases request with
  | subscribe topics => exact congrArg Reply.subscribed represents.nextId
  | unsubscribe id topics => rfl
  | publish topic message =>
    refine congrArg Reply.delivered ?_
    rw [represents.sound.publish_snd, represents.countP_accepts]
  | receive id =>
    refine congrArg Reply.received ?_
    by_cases issued : bus.Issued id
    · obtain ⟨subscriber, member, rfl⟩ :=
        List.mem_map.mp ((represents.mem_ids_iff id).mpr issued)
      rw [represents.subscriber?_of_mem subscriber member]
      exact represents.receive_snd_of_mem subscriber member
    · have gone : bus.waiting? id = none := by
        by_contra alive
        exact issued (represents.sound.waitingIssued id alive)
      rw [represents.subscriber?_of_not_issued id issued, receive_snd, gone]
      rfl
  | drop id => rfl

/-! ### Runs -/

theorem serves_joining (represents : bus.Represents board) (request : Request Message)
    (subscriber : Subscriber Message) (member : subscriber ∈ board.joining request) :
    (bus.perform request).1.Serves subscriber := by
  cases request with
  | subscribe topics =>
    rw [Switchboard.joining, List.mem_singleton, ← represents.nextId] at member
    subst member
    exact Serves.newest represents.sound topics
  | unsubscribe id topics => cases member
  | publish topic message => cases member
  | receive id => cases member
  | drop id => cases member

/-- Every request keeps bus and switchboard in step. -/
theorem perform (represents : bus.Represents board) (request : Request Message) :
    (bus.perform request).1.Represents (board.perform request).1 where
  sound := represents.sound.perform request
  capacity := (bus.capacity_perform request).trans represents.capacity
  nextId := by
    show _ = ((board.subscribers.map _) ++ board.joining request).length + 1
    rw [nextId_perform, List.length_append, List.length_map, represents.nextId]
    cases request <;> rfl
  ids := by
    show ((board.subscribers.map _) ++ board.joining request).map _ =
      List.range' 1 ((board.subscribers.map _) ++ board.joining request).length
    rw [List.map_append, List.map_map, List.length_append, List.length_map]
    have kept : board.subscribers.map ((·.id) ∘ fun subscriber =>
        subscriber.after board.capacity request) = List.range' 1 board.subscribers.length := by
      rw [← represents.ids]
      exact List.map_congr_left fun subscriber _ => subscriber.after_id board.capacity request
    rw [kept]
    cases request with
    | subscribe topics =>
      rw [Switchboard.joining, List.length_singleton, List.range'_1_concat, Nat.add_comm 1]
      rfl
    | unsubscribe id topics => exact List.append_nil _
    | publish topic message => exact List.append_nil _
    | receive id => exact List.append_nil _
    | drop id => exact List.append_nil _
  serves subscriber member := by
    rcases List.mem_append.mp member with old | new
    · obtain ⟨before, present, rfl⟩ := List.mem_map.mp old
      rw [← represents.capacity]
      exact (represents.serves before present).perform represents.sound
        (represents.issued before present).2 request
    · exact represents.serves_joining request subscriber new

end Bus.Represents

end ServerMonitor
