/-
This file lets anything happen while publications are on their way. Between the
lookup, the offers and the end of a publication, where it prunes, mailboxes are
created, unsubscribed and dropped, and other publications go on. In every state the
registrations are in order: each was made by a subscription and not given up since,
and mailboxes whose receivers are alive have all of theirs. Once a publication that met
a mailbox whose receiver is gone returns, that mailbox is under no topic.
-/

import ServerMonitor.Proofs.Bus.Enrolment
import ServerMonitor.Proofs.Bus.Publishers

namespace ServerMonitor

variable {Message : Type}

/-! ### Offering and pruning -/

namespace Bus

variable {bus : Bus Message}

theorem Sound.offer (sound : bus.Sound) (message : Message) (id : Nat) :
    (bus.offer message id).1.Sound :=
  sound.scan message [id] (List.nodup_singleton id)

theorem registered_offer (bus : Bus Message) (message : Message) (id : Nat) (topic : String) :
    (bus.offer message id).1.registered topic = bus.registered topic := by
  rw [registered_eq, (bus.offer_frame message id).1, registered_eq]

/-- Pruning leaves the registrations of the mailboxes whose receivers are alive. -/
theorem Sound.mem_registered_prune (sound : bus.Sound) (id : Nat) (topic : String) :
    id ∈ bus.prune.registered topic ↔ id ∈ bus.registered topic ∧ bus.waiting? id ≠ none := by
  rw [prune_eq, sound.registered_retained, List.mem_filter, waiting?, Ne, Option.map_eq_none_iff,
    Option.isSome_iff_ne_none]

end Bus

/-! ### What a publisher does -/

namespace Publisher

/-- What a publisher does next: it has nothing to publish, or looks up the mailboxes of a topic, or
offers the message to the next of them, or returns and prunes if it met one whose receiver is
gone. -/
theorem advance_eq (bus : Bus Message) (index : Nat) (publisher : Publisher Message) :
    (publisher.agenda = [] ∧ publisher.advance bus index = ((bus, publisher), .done)) ∨
    (∃ topic message rest position,
      publisher = ⟨(topic, message) :: rest, position, none⟩ ∧
      publisher.advance bus index =
        ((bus, ⟨(topic, message) :: rest, position, some (bus.registered topic, [])⟩), .done)) ∨
    (∃ topic message rest position id pending acceptances,
      publisher = ⟨(topic, message) :: rest, position, some (id :: pending, acceptances)⟩ ∧
      publisher.advance bus index =
        (((bus.offer message id).1, ⟨(topic, message) :: rest, position,
          some (pending, acceptances ++ [bus.acceptance id])⟩),
          .offered ⟨index, position, topic, message⟩ id (bus.acceptance id))) ∨
    ∃ publication rest position acceptances,
      publisher = ⟨publication :: rest, position, some ([], acceptances)⟩ ∧
      publisher.advance bus index =
        ((if .gone ∈ acceptances then bus.prune else bus, ⟨rest, position + 1, none⟩),
          .returned index (acceptances.count .queued)) := by
  match publisher with
  | ⟨[], _, _⟩ => exact .inl ⟨rfl, rfl⟩
  | ⟨(topic, message) :: rest, position, none⟩ =>
    exact .inr (.inl ⟨topic, message, rest, position, rfl, rfl⟩)
  | ⟨(topic, message) :: rest, position, some (id :: pending, acceptances)⟩ =>
    refine .inr (.inr (.inl ⟨topic, message, rest, position, id, pending, acceptances, rfl, ?_⟩))
    rw [advance, Bus.offer_eq]
  | ⟨publication :: rest, position, some ([], acceptances)⟩ =>
    exact .inr (.inr (.inr ⟨publication, rest, position, acceptances, rfl, rfl⟩))

/-- What a publisher does to the bus. -/
theorem bus_advance_cases (bus : Bus Message) (index : Nat) (publisher : Publisher Message) :
    (publisher.advance bus index).1.1 = bus ∨
      (∃ message id, (publisher.advance bus index).1.1 = (bus.offer message id).1) ∨
      (publisher.advance bus index).1.1 = bus.prune := by
  rcases publisher.advance_eq bus index with ⟨-, same⟩ | ⟨_, _, _, _, -, same⟩ |
    ⟨_, message, _, _, id, _, _, -, offers⟩ | ⟨_, _, _, acceptances, -, returns⟩
  · exact .inl (by rw [same])
  · exact .inl (by rw [same])
  · exact .inr (.inl ⟨message, id, by rw [offers]⟩)
  · rw [returns]
    by_cases stale : Acceptance.gone ∈ acceptances
    · exact .inr (.inr (if_pos stale))
    · exact .inl (if_neg stale)

end Publisher

namespace SharedBus

/-! ### Moves -/

/-- What happens next on a bus while publications are on their way. -/
inductive Move (Message : Type)
  /-- A publisher does what comes next. -/
  | proceed (publisher : Nat)
  /-- Others ask something of the bus. -/
  | ask (request : Bus.Request Message)

/-- What a move does, and what is answered. Registrations come and go at any time, even where a lock
would make others wait for the end of a scan. -/
def undergo : Machine (SharedBus Message) (Move Message) (Answer Message ⊕ Bus.Reply Message)
  | shared, .proceed index =>
    ((shared.perform (.proceed index)).1, .inl (shared.perform (.proceed index)).2)
  | shared, .ask request =>
    ({ shared with bus := (shared.bus.perform request).1 }, .inr (shared.bus.perform request).2)

namespace Move

/-- Whether it is this publisher's turn. -/
def isTurnOf (index : Nat) : Move Message → Bool
  | proceed other => other = index
  | ask _ => false

/-- Whether a move takes a mailbox off a topic at the wish of its owner. -/
def Leaves (id : Nat) (topic : String) : Move Message → Prop
  | ask request => request.Leaves id topic
  | proceed _ => False

end Move

/-- The bus and its publishers after some moves; at first there is no mailbox. -/
def moved (capacity : Nat) (agendas : List (List (String × Message)))
    (moves : List (Move Message)) : SharedBus Message :=
  Machine.run undergo (start (.withCapacity capacity) agendas) moves

/-- A mailbox subscribed to a topic and did not leave it since. -/
def Holds (capacity : Nat) (agendas : List (List (String × Message)))
    (moves : List (Move Message)) (id : Nat) (topic : String) : Prop :=
  ∃ past topics later, moves = past ++ .ask (.subscribe topics) :: later ∧
    ((moved capacity agendas past).bus.subscribe topics).2 = id ∧ topic ∈ topics ∧
    ∀ move ∈ later, ¬move.Leaves id topic

theorem undergo_of_absent {shared : SharedBus Message} {index : Nat}
    (absent : shared.publishers[index]? = none) : shared.undergo (.proceed index) =
      (shared, .inl .done) := by
  rw [undergo, perform, absent]

theorem undergo_of_found {shared : SharedBus Message} {index : Nat} {publisher : Publisher Message}
    (found : shared.publishers[index]? = some publisher) :
    shared.undergo (.proceed index) =
      (⟨(publisher.advance shared.bus index).1.1,
        shared.publishers.set index (publisher.advance shared.bus index).1.2⟩,
        .inl (publisher.advance shared.bus index).2) := by
  rw [undergo, perform, found]

/-- A turn of a publisher leaves the bus alone, offers a message or prunes. -/
theorem bus_proceed_cases (shared : SharedBus Message) (index : Nat) :
    (shared.undergo (.proceed index)).1.bus = shared.bus ∨
      (∃ message id, (shared.undergo (.proceed index)).1.bus = (shared.bus.offer message id).1) ∨
      (shared.undergo (.proceed index)).1.bus = shared.bus.prune := by
  cases found : shared.publishers[index]? with
  | none => exact .inl (by rw [undergo_of_absent found])
  | some publisher =>
    rw [undergo_of_found found]
    exact publisher.bus_advance_cases shared.bus index

/-! ### What every move keeps -/

/-- What holds of a bus and its publishers in every run. -/
structure Proper (shared : SharedBus Message) : Prop where
  sound : shared.bus.Sound
  occupied : shared.bus.Occupied
  /-- Messages are offered only to mailboxes that the bus created. -/
  pending : ∀ publisher ∈ shared.publishers, ∀ pending acceptances,
    publisher.offering = some (pending, acceptances) → ∀ id ∈ pending, shared.bus.Issued id

theorem Proper.start (capacity : Nat) (agendas : List (List (String × Message))) :
    (start (.withCapacity capacity) agendas).Proper where
  sound := .withCapacity capacity
  occupied := Bus.occupied_withCapacity capacity
  pending publisher member := by
    obtain ⟨agenda, -, rfl⟩ := List.mem_map.mp member
    nofun

theorem nextId_le_undergo (shared : SharedBus Message) (move : Move Message) :
    shared.bus.nextId ≤ (shared.undergo move).1.bus.nextId := by
  cases move with
  | ask request => exact shared.bus.nextId_le_perform request
  | proceed index =>
    rcases shared.bus_proceed_cases index with same | ⟨message, id, offers⟩ | prunes
    · rw [same]
    · rw [offers, (shared.bus.offer_frame message id).2.2]
    · rw [prunes]
      exact le_rfl

theorem issued_undergo {shared : SharedBus Message} {id : Nat} (issued : shared.bus.Issued id)
    (move : Move Message) : (shared.undergo move).1.bus.Issued id :=
  ⟨issued.1, Nat.lt_of_lt_of_le issued.2 (shared.nextId_le_undergo move)⟩

namespace Proper

variable {shared : SharedBus Message} (proper : shared.Proper)

include proper

theorem pending_undergo (move : Move Message) :
    ∀ publisher ∈ (shared.undergo move).1.publishers, ∀ pending acceptances,
      publisher.offering = some (pending, acceptances) →
        ∀ id ∈ pending, (shared.undergo move).1.bus.Issued id := by
  intro publisher member pending acceptances offering id listed
  suffices before : shared.bus.Issued id from issued_undergo before move
  cases move with
  | ask request => exact proper.pending publisher member pending acceptances offering id listed
  | proceed index =>
    cases found : shared.publishers[index]? with
    | none =>
      rw [undergo_of_absent found] at member
      exact proper.pending publisher member pending acceptances offering id listed
    | some before =>
      have present := List.mem_of_getElem? found
      rw [undergo_of_found found] at member
      rcases List.mem_or_eq_of_mem_set member with old | rfl
      · exact proper.pending publisher old pending acceptances offering id listed
      · rcases before.advance_eq shared.bus index with ⟨-, same⟩ | ⟨topic, _, _, _, -, looks⟩ |
          ⟨_, _, _, _, next, later, told, rfl, offers⟩ | ⟨_, _, _, _, -, returns⟩
        · rw [same] at offering
          exact proper.pending before present pending acceptances offering id listed
        · rw [looks] at offering
          cases offering
          exact proper.sound.registeredIssued topic id listed
        · rw [offers] at offering
          cases offering
          exact proper.pending _ present (next :: pending) told rfl id
            (List.mem_cons_of_mem next listed)
        · rw [returns] at offering
          cases offering

theorem undergo (move : Move Message) : (shared.undergo move).1.Proper := by
  have kept : (shared.undergo move).1.bus.Sound ∧ (shared.undergo move).1.bus.Occupied := by
    cases move with
    | ask request => exact ⟨proper.sound.perform request, proper.occupied.perform request⟩
    | proceed index =>
      rcases shared.bus_proceed_cases index with same | ⟨message, id, offers⟩ | prunes
      · exact same ▸ ⟨proper.sound, proper.occupied⟩
      · rw [offers]
        exact ⟨proper.sound.offer message id,
          proper.occupied.of_registry (shared.bus.offer_frame message id).1⟩
      · exact prunes ▸ ⟨proper.sound.retained _, shared.bus.occupied_retained _⟩
  exact ⟨kept.1, kept.2, proper.pending_undergo move⟩

/-- No receiver comes to life again. -/
theorem gone_undergo {id : Nat} (issued : shared.bus.Issued id)
    (gone : shared.bus.waiting? id = none) (move : Move Message) :
    (shared.undergo move).1.bus.waiting? id = none := by
  cases move with
  | ask request => exact proper.sound.gone_perform issued.2 gone request
  | proceed index =>
    rcases shared.bus_proceed_cases index with same | ⟨message, other, offers⟩ | prunes
    · rw [same, gone]
    · rw [offers, Bus.waiting?_offer, gone, Option.map_none, ite_self]
    · rw [prunes]
      exact gone

/-- Under a topic are only mailboxes that were there and were not taken off it, and the one that
just subscribed. -/
theorem mem_registered_of_undergo {id : Nat} {topic : String} {move : Move Message}
    (member : id ∈ (shared.undergo move).1.bus.registered topic) :
    (id ∈ shared.bus.registered topic ∧ ¬move.Leaves id topic) ∨
      ∃ topics, move = .ask (.subscribe topics) ∧ (shared.bus.subscribe topics).2 = id ∧
        topic ∈ topics := by
  cases move with
  | ask request =>
    rcases (proper.sound.mem_registered_perform request topic).mp member with
      ⟨old, stays, -⟩ | ⟨new, joins⟩
    · exact .inl ⟨old, stays⟩
    · cases request with
      | subscribe topics => exact .inr ⟨topics, rfl, new.symm, joins⟩
      | _ => cases joins
  | proceed index =>
    refine .inl ⟨?_, not_false⟩
    rcases shared.bus_proceed_cases index with same | ⟨message, other, offers⟩ | prunes
    · exact same ▸ member
    · rwa [offers, Bus.registered_offer] at member
    · rw [prunes, proper.sound.mem_registered_prune] at member
      exact member.1

/-- A mailbox whose receiver is alive stays under its topics unless it is taken off. -/
theorem mem_registered_undergo {id : Nat} {topic : String} {move : Move Message}
    (alive : shared.bus.waiting? id ≠ none) (member : id ∈ shared.bus.registered topic)
    (stays : ¬move.Leaves id topic) : id ∈ (shared.undergo move).1.bus.registered topic := by
  cases move with
  | ask request =>
    exact (proper.sound.mem_registered_perform request topic).mpr
      (.inl ⟨member, stays, fun _ => alive⟩)
  | proceed index =>
    rcases shared.bus_proceed_cases index with same | ⟨message, other, offers⟩ | prunes
    · exact same ▸ member
    · rwa [offers, Bus.registered_offer]
    · rw [prunes, proper.sound.mem_registered_prune]
      exact ⟨member, alive⟩

end Proper

/-! ### Registrations and subscriptions -/

section Runs

variable (capacity : Nat) (agendas : List (List (String × Message)))

theorem moved_append (moves later : List (Move Message)) :
    moved capacity agendas (moves ++ later) =
      Machine.run undergo (moved capacity agendas moves) later :=
  Machine.run_append undergo _ moves later

theorem moved_concat (moves : List (Move Message)) (move : Move Message) :
    moved capacity agendas (moves ++ [move]) = ((moved capacity agendas moves).undergo move).1 :=
  Machine.run_concat undergo _ moves move

theorem proper_run {shared : SharedBus Message} (proper : shared.Proper)
    (moves : List (Move Message)) : (Machine.run undergo shared moves).Proper :=
  Machine.run_invariant undergo Proper (fun _ move proper => proper.undergo move) proper moves

theorem proper_moved (moves : List (Move Message)) : (moved capacity agendas moves).Proper :=
  proper_run (.start capacity agendas) moves

theorem holds_concat (moves : List (Move Message)) (move : Move Message) (id : Nat)
    (topic : String) :
    Holds capacity agendas (moves ++ [move]) id topic ↔
      (Holds capacity agendas moves id topic ∧ ¬move.Leaves id topic) ∨
      ∃ topics, move = .ask (.subscribe topics) ∧
        ((moved capacity agendas moves).bus.subscribe topics).2 = id ∧ topic ∈ topics := by
  constructor
  · rintro ⟨past, topics, later, split, granted, listed, kept⟩
    rcases List.eq_nil_or_concat later with rfl | ⟨between, last, rfl⟩
    · obtain ⟨rfl, same⟩ := List.append_inj' split rfl
      exact .inr ⟨topics, List.singleton_inj.mp same, granted, listed⟩
    · rw [List.concat_eq_append, ← List.cons_append, ← List.append_assoc] at split
      obtain ⟨rfl, same⟩ := List.append_inj' split rfl
      obtain rfl := List.singleton_inj.mp same
      rw [List.concat_eq_append, List.forall_mem_append] at kept
      exact .inl ⟨⟨past, topics, between, rfl, granted, listed, kept.1⟩,
        kept.2 _ (List.mem_singleton_self _)⟩
  · rintro (⟨⟨past, topics, later, rfl, granted, listed, kept⟩, stays⟩ |
      ⟨topics, rfl, granted, listed⟩)
    · refine ⟨past, topics, later ++ [move], by simp, granted, listed, ?_⟩
      exact List.forall_mem_append.mpr ⟨kept, List.forall_mem_singleton.mpr stays⟩
    · exact ⟨moves, topics, [], rfl, granted, listed, nofun⟩

/-- Every registration was made by a subscription and not given up since. -/
theorem holds_of_registered (moves : List (Move Message)) {id : Nat} {topic : String}
    (member : id ∈ (moved capacity agendas moves).bus.registered topic) :
    Holds capacity agendas moves id topic := by
  induction moves using List.reverseRecOn with
  | nil => cases member
  | append_singleton past move inductionHypothesis =>
    rw [moved_concat] at member
    rw [holds_concat]
    rcases (proper_moved capacity agendas past).mem_registered_of_undergo member with
      ⟨old, stays⟩ | new
    · exact .inl ⟨inductionHypothesis old, stays⟩
    · exact .inr new

/-- Mailboxes that subscribed were created, and are under the topic as long as their receivers are
alive. -/
theorem registered_of_holds (moves : List (Move Message)) {id : Nat} {topic : String}
    (holds : Holds capacity agendas moves id topic) :
    (moved capacity agendas moves).bus.Issued id ∧
      ((moved capacity agendas moves).bus.waiting? id ≠ none →
        id ∈ (moved capacity agendas moves).bus.registered topic) := by
  induction moves using List.reverseRecOn with
  | nil =>
    obtain ⟨past, _, _, split, -⟩ := holds
    cases past <;> cases split
  | append_singleton past move inductionHypothesis =>
    have proper := proper_moved capacity agendas past
    rw [moved_concat]
    rcases (holds_concat capacity agendas past move id topic).mp holds with
      ⟨held, stays⟩ | ⟨topics, rfl, rfl, listed⟩
    · obtain ⟨issued, registered⟩ := inductionHypothesis held
      refine ⟨issued_undergo issued move, fun alive => ?_⟩
      have before : (moved capacity agendas past).bus.waiting? id ≠ none := fun gone =>
        alive (proper.gone_undergo issued gone move)
      exact proper.mem_registered_undergo before (registered before) stays
    · refine ⟨⟨proper.sound.nextIdPositive, Nat.lt_succ_self _⟩, fun _ => ?_⟩
      exact (proper.sound.mem_registered_perform (.subscribe topics) topic).mpr
        (.inr ⟨rfl, listed⟩)

end Runs

/-! ### Mailboxes whose receivers are gone -/

/-- A publication comes upon a mailbox whose receiver is gone in the next turn of its publisher. -/
inductive Meets (shared : SharedBus Message) (index id : Nat) : Prop
  /-- The mailbox is offered the message. -/
  | offers (posting : Posting Message)
    (told : (shared.undergo (.proceed index)).2 = .inl (.offered posting id .gone))
  /-- The mailbox is found under the topic of the message. -/
  | finds (topic : String) (message : Message) (rest : List (String × Message)) (position : Nat)
    (begins : shared.publishers[index]? = some ⟨(topic, message) :: rest, position, none⟩)
    (listed : id ∈ shared.bus.registered topic) (gone : shared.bus.waiting? id = none)

/-- How many mailboxes a publication on its way has yet to offer its message to. -/
def yetToOffer (shared : SharedBus Message) (index : Nat) : Nat :=
  match shared.publishers[index]? with
  | some ⟨_, _, some (pending, _)⟩ => pending.length
  | _ => 0

/-- A publication on its way either met a mailbox whose receiver is gone, or is going to offer its
message to this one, whose receiver is gone as well. -/
structure Doomed (shared : SharedBus Message) (index id left : Nat) : Prop where
  issued : shared.bus.Issued id
  gone : shared.bus.waiting? id = none
  underWay : ∃ publication rest position pending acceptances,
    shared.publishers[index]? = some ⟨publication :: rest, position, some (pending, acceptances)⟩ ∧
      pending.length = left ∧ (id ∈ pending ∨ .gone ∈ acceptances)

/-- A mailbox of the bus that is not under this topic. -/
structure Lacks (shared : SharedBus Message) (id : Nat) (topic : String) : Prop where
  issued : shared.bus.Issued id
  unregistered : id ∉ shared.bus.registered topic

namespace Proper

variable {shared : SharedBus Message} (proper : shared.Proper) {index id left : Nat}
  {topic : String}

include proper

/-- Only a new mailbox gets under a topic. -/
theorem lacks_undergo (lacks : shared.Lacks id topic) (move : Move Message) :
    (shared.undergo move).1.Lacks id topic := by
  refine ⟨issued_undergo lacks.issued move, fun member => ?_⟩
  rcases proper.mem_registered_of_undergo member with ⟨old, -⟩ | ⟨topics, -, new, -⟩
  · exact lacks.unregistered old
  · exact Nat.lt_irrefl _ (new ▸ lacks.issued.2)

theorem lacks_run (lacks : shared.Lacks id topic) (moves : List (Move Message)) :
    (Machine.run SharedBus.undergo shared moves).Lacks id topic :=
  (Machine.run_invariant SharedBus.undergo (fun shared => shared.Proper ∧ shared.Lacks id topic)
    (fun _ move both => ⟨both.1.undergo move, both.1.lacks_undergo both.2 move⟩)
    ⟨proper, lacks⟩ moves).2

/-- Whatever others do, a mailbox that is going to be pruned will be. -/
theorem doomed_undergo_other (doomed : shared.Doomed index id left) {move : Move Message}
    (other : move.isTurnOf index = false) : (shared.undergo move).1.Doomed index id left := by
  refine ⟨issued_undergo doomed.issued move,
    proper.gone_undergo doomed.issued doomed.gone move, ?_⟩
  have unmoved : (shared.undergo move).1.publishers[index]? = shared.publishers[index]? := by
    cases move with
    | ask request => rfl
    | proceed another =>
      cases found : shared.publishers[another]? with
      | none => rw [undergo_of_absent found]
      | some publisher =>
        rw [undergo_of_found found]
        exact List.getElem?_set_ne (of_decide_eq_false other)
  rw [unmoved]
  exact doomed.underWay

/-- The publisher offers its message to the next mailbox. -/
theorem doomed_undergo_own (doomed : shared.Doomed index id (left + 1)) :
    (shared.undergo (.proceed index)).1.Doomed index id left ∧
      ∀ delivered, (shared.undergo (.proceed index)).2 ≠ .inl (.returned index delivered) := by
  obtain ⟨⟨topic, message⟩, rest, position, pending, acceptances, found, length, cause⟩ :=
    doomed.underWay
  obtain ⟨next, later, rfl⟩ := List.exists_cons_of_length_eq_add_one length
  refine ⟨⟨issued_undergo doomed.issued _, proper.gone_undergo doomed.issued doomed.gone _, ?_⟩, ?_⟩
  · rw [undergo_of_found found]
    refine ⟨(topic, message), rest, position, later,
      acceptances ++ [(shared.bus.offer message next).2], ?_, Nat.succ.inj length, ?_⟩
    · exact List.getElem?_set_self (List.getElem?_eq_some_iff.mp found).1
    · rw [List.mem_append, List.mem_singleton, Bus.offer_eq]
      rcases cause with listed | met
      · rcases List.mem_cons.mp listed with rfl | listed
        · exact .inr (.inr ((Bus.acceptance_eq_gone_iff _ _).mpr doomed.gone).symm)
        · exact .inl listed
      · exact .inr (.inl met)
  · rw [undergo_of_found found]
    nofun

/-- The publisher has no mailbox left to offer its message to: it prunes and returns. -/
theorem lacks_of_doomed (doomed : shared.Doomed index id 0) :
    (shared.undergo (.proceed index)).1.Lacks id topic := by
  obtain ⟨publication, rest, position, pending, acceptances, found, length, cause⟩ :=
    doomed.underWay
  obtain rfl := List.length_eq_zero_iff.mp length
  have met : Acceptance.gone ∈ acceptances := cause.resolve_left List.not_mem_nil
  refine ⟨issued_undergo doomed.issued _, fun member => ?_⟩
  have pruned : (shared.undergo (.proceed index)).1.bus = shared.bus.prune := by
    rw [undergo_of_found found]
    exact if_pos met
  rw [pruned, proper.sound.mem_registered_prune] at member
  exact member.2 doomed.gone

/-- A mailbox whose receiver is gone is going to be pruned by the publication that comes upon it. -/
theorem doomed_of_meets (meets : shared.Meets index id) :
    (shared.undergo (.proceed index)).1.Doomed index id
      ((shared.undergo (.proceed index)).1.yetToOffer index) := by
  cases meets with
  | finds topic message rest position begins listed gone =>
    have issued := proper.sound.registeredIssued topic id listed
    have looked : (shared.undergo (.proceed index)).1.publishers[index]? =
        some ⟨(topic, message) :: rest, position, some (shared.bus.registered topic, [])⟩ := by
      rw [undergo_of_found begins]
      exact List.getElem?_set_self (List.getElem?_eq_some_iff.mp begins).1
    refine ⟨issued_undergo issued _, proper.gone_undergo issued gone _, (topic, message), rest,
      position, shared.bus.registered topic, [], looked, ?_, .inl listed⟩
    rw [yetToOffer, looked]
  | offers posting told =>
    cases found : shared.publishers[index]? with
    | none =>
      rw [undergo_of_absent found] at told
      cases told
    | some publisher =>
      rw [undergo_of_found found] at told
      rcases publisher.advance_eq shared.bus index with ⟨-, same⟩ | ⟨_, _, _, _, -, looks⟩ |
        ⟨topic, message, rest, position, next, later, acceptances, rfl, offers⟩ |
        ⟨_, _, _, _, -, returns⟩
      · rw [same] at told
        cases told
      · rw [looks] at told
        cases told
      · rw [offers] at told
        obtain ⟨-, rfl, gone⟩ := Answer.offered.inj (Sum.inl.inj told)
        have issued := proper.pending _ (List.mem_of_getElem? found) _ _ rfl next
          List.mem_cons_self
        have offered : (shared.undergo (.proceed index)).1.publishers[index]? =
            some ⟨(topic, message) :: rest, position, some (later, acceptances ++ [.gone])⟩ := by
          rw [undergo_of_found found, offers, gone]
          exact List.getElem?_set_self (List.getElem?_eq_some_iff.mp found).1
        refine ⟨issued_undergo issued _, proper.gone_undergo issued
          ((Bus.acceptance_eq_gone_iff _ _).mp gone) _, (topic, message), rest, position, later,
          acceptances ++ [.gone], offered, ?_, .inr ?_⟩
        · rw [yetToOffer, offered]
        · exact List.mem_append_right _ (List.mem_singleton_self _)
      · rw [returns] at told
        cases told

/-- After so many turns of the publisher as it has mailboxes left to offer its message to, and one
more, a mailbox that was going to be pruned is under no topic. -/
theorem doomed_run (doomed : shared.Doomed index id left) (moves : List (Move Message)) :
    let turns := moves.countP (Move.isTurnOf index)
    let later := Machine.run SharedBus.undergo shared moves
    (turns ≤ left ∧ later.Doomed index id (left - turns)) ∨
      (left < turns ∧ later.Lacks id topic) := by
  -- Only turns of this publisher count: each leaves one mailbox less, and the last one prunes.
  induction moves generalizing shared left with
  | nil => exact .inl ⟨Nat.zero_le left, doomed⟩
  | cons move rest inductionHypothesis =>
    cases own : move.isTurnOf index with
    | false =>
      rw [List.countP_cons_of_neg (by simp [own])]
      exact inductionHypothesis (proper.undergo move) (proper.doomed_undergo_other doomed own)
    | true =>
      rw [List.countP_cons_of_pos own]
      cases move with
      | ask request => cases own
      | proceed another =>
        obtain rfl : another = index := of_decide_eq_true own
        cases left with
        | zero =>
          exact .inr ⟨Nat.succ_pos _, (proper.undergo (.proceed another)).lacks_run
            (proper.lacks_of_doomed doomed) rest⟩
        | succ left =>
          dsimp only
          rw [Nat.add_le_add_iff_right, Nat.add_lt_add_iff_right, Nat.add_sub_add_right]
          exact inductionHypothesis (proper.undergo (.proceed another))
            (proper.doomed_undergo_own doomed).1

/-- Whenever the publication returns, the mailbox that was going to be pruned is under no topic. -/
theorem lacks_of_returned (meets : shared.Meets index id) (between : List (Move Message))
    {delivered : Nat}
    (returned : ((Machine.run SharedBus.undergo shared (.proceed index :: between)).undergo
      (.proceed index)).2 = .inl (.returned index delivered)) :
    ((Machine.run SharedBus.undergo shared (.proceed index :: between)).undergo
      (.proceed index)).1.Lacks id topic := by
  have next := proper.undergo (.proceed index)
  have now := proper_run proper (.proceed index :: between)
  rcases next.doomed_run (proper.doomed_of_meets meets) between with ⟨-, doomed⟩ | ⟨-, lacks⟩
  · change (Machine.run SharedBus.undergo shared (.proceed index :: between)).Doomed index id _
      at doomed
    -- It does not return as long as there is a mailbox left.
    generalize (shared.undergo (.proceed index)).1.yetToOffer index - _ = left at doomed
    cases left with
    | zero => exact now.lacks_of_doomed doomed
    | succ left => exact absurd returned ((now.doomed_undergo_own doomed).2 delivered)
  · exact now.lacks_undergo lacks (.proceed index)

end Proper

/-! ### Runs -/

/-- A new bus is used in any way while publications are on their way: each looks up the mailboxes
under its topic, offers its message to one after the other, and returns after it pruned, if it met
one whose receiver is gone; anything may happen in between. In every state each topic that is listed
has mailboxes, each of them once, and every registration belongs to a mailbox that the bus created,
under a topic to which it subscribed and which it did not leave since; so the bus counts the topics
that have a registration, and the mailboxes under a topic. A mailbox whose receiver is alive has all
the registrations that it did not give up, and no other move takes one from it. When a publication
that came upon a mailbox whose receiver is gone returns, that mailbox is under no topic; it takes
one turn of the publisher for each mailbox that is left, and one more. Only a new mailbox gets
registrations, so the mailbox is under no topic ever after. -/
theorem registrations_in_order (capacity : Nat) (agendas : List (List (String × Message)))
    (moves : List (Move Message)) :
    let now := moved capacity agendas moves
    (∀ registration ∈ now.bus.registry, registration.2 ≠ [] ∧ registration.2.Nodup ∧
      ∀ id ∈ registration.2, now.bus.Issued id ∧
        Holds capacity agendas moves id registration.1) ∧
    {topic | ∃ id, id ∈ now.bus.registered topic}.encard = now.bus.topicCount ∧
    (∀ topic, {id | id ∈ now.bus.registered topic}.encard = now.bus.subscriberCount topic) ∧
    (∀ id topic, now.bus.waiting? id ≠ none →
      (id ∈ now.bus.registered topic ↔ Holds capacity agendas moves id topic)) ∧
    (∀ id topic move, now.bus.waiting? id ≠ none → id ∈ now.bus.registered topic →
      ¬move.Leaves id topic → id ∈ (now.undergo move).1.bus.registered topic) ∧
    (∀ past index between id, moves = past ++ .proceed index :: between →
      (moved capacity agendas past).Meets index id →
        (∀ delivered, (now.undergo (.proceed index)).2 = .inl (.returned index delivered) →
          ∀ topic, id ∉ (now.undergo (.proceed index)).1.bus.registered topic) ∧
        ((moved capacity agendas (past ++ [.proceed index])).yetToOffer index <
            between.countP (Move.isTurnOf index) →
          ∀ topic, id ∉ now.bus.registered topic)) ∧
    (∀ id topic message, id ∈ now.bus.registered topic → now.bus.waiting? id = none →
      ∀ other, id ∉ (now.bus.publish topic message).1.registered other) ∧
    ∀ id, now.bus.Issued id → ∀ future topic,
      id ∈ (moved capacity agendas (moves ++ future)).bus.registered topic →
        id ∈ now.bus.registered topic := by
  intro now
  have proper : now.Proper := proper_moved capacity agendas moves
  refine ⟨fun registration member => ?_, proper.sound.encard_topics proper.occupied,
    proper.sound.encard_registered, fun id topic alive => ?_,
    fun id topic move alive member stays => proper.mem_registered_undergo alive member stays,
    ?_, fun id topic message listed gone other member => ?_,
    fun id issued future topic member => ?_⟩
  · have listed := proper.sound.registered_of_mem member
    refine ⟨proper.occupied registration member, ?_, fun id under => ?_⟩
    · exact listed ▸ proper.sound.registeredOnce registration.1
    · rw [← listed] at under
      exact ⟨proper.sound.registeredIssued _ id under, holds_of_registered _ _ moves under⟩
  · exact ⟨holds_of_registered capacity agendas moves,
      fun holds => (registered_of_holds capacity agendas moves holds).2 alive⟩
  · rintro past index between id rfl meets
    have before := proper_moved capacity agendas past
    have split : now = Machine.run undergo (moved capacity agendas past)
        (.proceed index :: between) := moved_append capacity agendas past _
    refine ⟨fun delivered returned topic => ?_, fun enough topic => ?_⟩
    · rw [split] at returned ⊢
      exact (before.lacks_of_returned meets between returned).unregistered
    · rw [moved_concat] at enough
      rcases (before.undergo (.proceed index)).doomed_run (before.doomed_of_meets meets) between
        with ⟨few, -⟩ | ⟨-, lacks⟩
      · exact absurd enough (Nat.not_lt_of_le few)
      · rw [split]
        exact lacks.unregistered
  · have stale := ((proper.sound.mem_registered_publish topic other message id).mp member).2
    exact stale ⟨id, listed, gone⟩ gone
  · rw [moved_append] at member
    by_contra absent
    exact (proper.lacks_run ⟨issued, absent⟩ future).unregistered member

/-- The first mailbox is dropped before a publication finds it under its topic. Before the
publication returns, a third mailbox subscribes to the other topic of the first one, and the second
is taken off the topic of the message. The first mailbox is then under no topic, the topic of the
message is not listed any more, and the newcomer has both of its registrations. -/
theorem pruned_while_others_come_and_go :
    let agendas := [[("a", 7)], [("b", 8)]]
    let past : List (Move Nat) :=
      [.ask (.subscribe ["a", "b"]), .ask (.subscribe ["a"]), .ask (.drop 1)]
    let between : List (Move Nat) :=
      [.proceed 0, .proceed 0, .ask (.subscribe ["b", "c"]), .proceed 1,
        .ask (.unsubscribe 2 ["a"])]
    let now := moved 4 agendas (past ++ .proceed 0 :: between)
    (now.undergo (.proceed 0)).2 = .inl (.returned 0 1) ∧ 1 ∈ now.bus.registered "b" ∧
    (∀ topic, 1 ∉ (now.undergo (.proceed 0)).1.bus.registered topic) ∧
    3 ∈ (now.undergo (.proceed 0)).1.bus.registered "b" ∧
    3 ∈ (now.undergo (.proceed 0)).1.bus.registered "c" ∧
    (now.undergo (.proceed 0)).1.bus.topicCount = 2 := by
  intro agendas past between now
  have returned : (now.undergo (.proceed 0)).2 = .inl (.returned 0 1) := rfl
  subst now
  obtain ⟨-, -, -, -, kept, pruned, -⟩ :=
    registrations_in_order 4 agendas (past ++ .proceed 0 :: between)
  have meets : (moved 4 agendas past).Meets 0 1 :=
    .finds "a" 7 [] 0 rfl (by decide +kernel) rfl
  refine ⟨returned, by decide +kernel, (pruned past 0 between 1 rfl meets).1 1 returned, ?_, ?_,
    by decide +kernel⟩
  · exact kept 3 "b" (.proceed 0) (by decide +kernel) (by decide +kernel) not_false
  · exact kept 3 "c" (.proceed 0) (by decide +kernel) (by decide +kernel) not_false

end SharedBus

end ServerMonitor
