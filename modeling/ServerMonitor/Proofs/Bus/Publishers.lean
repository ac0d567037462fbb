/-
This file lets publications overlap. A publisher looks up the mailboxes of a
topic, offers its message to one after the other and returns how many took it,
each in a turn of its own; in between other publishers and receivers take their
turns. Uninterrupted turns are a publication of the bus. As long as no mailbox
comes or goes, what a publisher has offered to a mailbox, followed by what it has
yet to offer, is what it was to publish there.
-/

import Mathlib.Data.List.Nodup
import ServerMonitor.Proofs.Bus.Closing

namespace ServerMonitor

variable {Message : Type}

theorem Bus.queued_offer (bus : Bus Message) (message : Message) (id other : Nat) :
    (bus.offer message other).1.queued id =
      bus.queued id ++ if id = other ∧ bus.acceptance other = .queued then [message] else [] := by
  rw [queued_eq, queued_eq, waiting?_offer]
  by_cases same : id = other
  · subst same
    rw [if_pos rfl]
    cases held : bus.waiting? id with
    | none => simp [acceptance, held]
    | some queue =>
      by_cases room : queue.length < bus.capacity <;> simp [acceptance, held, room, extended]
  · simp [same]

theorem Bus.capacity_le_of_full (bus : Bus Message) {id : Nat} (full : bus.acceptance id = .full) :
    bus.capacity ≤ (bus.queued id).length := by
  rw [queued_eq]
  unfold acceptance at full
  cases held : bus.waiting? id with
  | none =>
    rw [held] at full
    cases full
  | some queue =>
    rw [held] at full
    by_contra short
    have room : queue.length < bus.capacity := Nat.lt_of_not_le short
    simp [room] at full

/-! ### Publishers -/

/-- A message that a publisher publishes, with its number among the messages of that publisher. -/
structure Posting (Message : Type) where
  publisher : Nat
  position : Nat
  topic : String
  message : Message

structure Publisher (Message : Type) where
  /-- What it has yet to publish, by topic. The first of it may be on its way. -/
  agenda : List (String × Message)
  /-- How many of its publications have returned. -/
  position : Nat
  /-- The mailboxes that have yet to be offered the first message, and what the others said. -/
  offering : Option (List Nat × List Acceptance)

/-- A bus and those who publish on it. -/
structure SharedBus (Message : Type) where
  bus : Bus Message
  publishers : List (Publisher Message)

namespace SharedBus

inductive Turn
  /-- A publisher does what comes next. -/
  | proceed (publisher : Nat)
  /-- The receiver of a mailbox takes the oldest message. -/
  | receive (id : Nat)
deriving DecidableEq

inductive Answer (Message : Type)
  /-- A message was offered to a mailbox. -/
  | offered (posting : Posting Message) (id : Nat) (acceptance : Acceptance)
  /-- A publication returned how many mailboxes took the message. -/
  | returned (publisher delivered : Nat)
  | received (id : Nat) (receipt : Receipt Message)
  | done

end SharedBus

/-- What a publisher does next. -/
def Publisher.advance (bus : Bus Message) (index : Nat) (publisher : Publisher Message) :
    (Bus Message × Publisher Message) × SharedBus.Answer Message :=
  match publisher with
  | ⟨[], _, _⟩ => ((bus, publisher), .done)
  | ⟨(topic, message) :: rest, position, none⟩ =>
    ((bus, ⟨(topic, message) :: rest, position, some (bus.registered topic, [])⟩), .done)
  | ⟨(topic, message) :: rest, position, some (id :: pending, acceptances)⟩ =>
    let (offered, acceptance) := bus.offer message id
    ((offered, ⟨(topic, message) :: rest, position, some (pending, acceptances ++ [acceptance])⟩),
      .offered ⟨index, position, topic, message⟩ id acceptance)
  | ⟨_ :: rest, position, some ([], acceptances)⟩ =>
    ((if .gone ∈ acceptances then bus.prune else bus, ⟨rest, position + 1, none⟩),
      .returned index (acceptances.count .queued))

namespace SharedBus

/-- What a turn does, and what it answers. -/
def perform : Machine (SharedBus Message) Turn (Answer Message)
  | shared, .proceed index =>
    match shared.publishers[index]? with
    | none => (shared, .done)
    | some publisher =>
      let ((bus, after), answer) := publisher.advance shared.bus index
      (⟨bus, shared.publishers.set index after⟩, answer)
  | shared, .receive id =>
    ({ shared with bus := (shared.bus.receive id).1 }, .received id (shared.bus.receive id).2)

/-- The publishers have yet to begin. -/
def start (bus : Bus Message) (agendas : List (List (String × Message))) : SharedBus Message :=
  ⟨bus, agendas.map fun agenda => ⟨agenda, 0, none⟩⟩

/-! ### Uninterrupted turns -/

section Uninterrupted

variable {index : Nat} {topic : String} {message : Message} {rest : List (String × Message)}
  {position : Nat}

/-- Offers that follow each other are the scan of a publication. -/
theorem run_offers (shared : SharedBus Message) {pending : List Nat}
    {acceptances : List Acceptance}
    (offers : shared.publishers[index]? =
      some ⟨(topic, message) :: rest, position, some (pending, acceptances)⟩) :
    let scanned := shared.bus.scan message pending
    Machine.run perform shared (List.replicate pending.length (.proceed index)) =
      ⟨scanned.1, shared.publishers.set index
        ⟨(topic, message) :: rest, position, some ([], acceptances ++ scanned.2)⟩⟩ := by
  induction pending generalizing shared acceptances with
  | nil =>
    obtain ⟨bound, present⟩ := List.getElem?_eq_some_iff.mp offers
    simp [Machine.run, Bus.scan, ← present]
  | cons id later inductionHypothesis =>
    rw [List.length_cons, List.replicate_succ]
    have offered : (shared.perform (.proceed index)).1 = ⟨(shared.bus.offer message id).1,
        shared.publishers.set index ⟨(topic, message) :: rest, position,
          some (later, acceptances ++ [(shared.bus.offer message id).2])⟩⟩ := by
      rw [perform, offers]
      rfl
    show Machine.run perform (shared.perform (.proceed index)).1 _ = _
    rw [offered, inductionHypothesis _ (by
      rw [List.getElem?_set_self (List.getElem?_eq_some_iff.mp offers).1])]
    simp [Bus.scan]

/-- A publication that is not interrupted is a publication of the bus. -/
theorem run_publication (shared : SharedBus Message)
    (begins : shared.publishers[index]? = some ⟨(topic, message) :: rest, position, none⟩) :
    let published := shared.bus.publish topic message
    let before := Machine.run perform shared
      (List.replicate ((shared.bus.registered topic).length + 1) (.proceed index))
    before.perform (.proceed index) =
      (⟨published.1, shared.publishers.set index ⟨rest, position + 1, none⟩⟩,
        .returned index published.2) := by
  intro published before
  have bound := (List.getElem?_eq_some_iff.mp begins).1
  have looked : (shared.perform (.proceed index)).1 = ⟨shared.bus, shared.publishers.set index
      ⟨(topic, message) :: rest, position, some (shared.bus.registered topic, [])⟩⟩ := by
    rw [perform, begins]
    rfl
  have offered : before = ⟨(shared.bus.scan message (shared.bus.registered topic)).1,
      shared.publishers.set index ⟨(topic, message) :: rest, position,
        some ([], (shared.bus.scan message (shared.bus.registered topic)).2)⟩⟩ := by
    show Machine.run perform (shared.perform (.proceed index)).1 _ = _
    rw [looked]
    refine (run_offers _ (List.getElem?_set_self bound)).trans ?_
    rw [List.set_set, List.nil_append]
  rw [offered, perform, List.getElem?_set_self bound]
  simp [Publisher.advance, published, Bus.publish]

end Uninterrupted

end SharedBus

namespace Publisher

/-- What keeps a publisher in order: it has offers to make only to mailboxes under the topic, to
each once, and met none whose receiver is gone. -/
def Orderly (registered : String → List Nat) (publisher : Publisher Message) : Prop :=
  ∀ pending acceptances, publisher.offering = some (pending, acceptances) →
    .gone ∉ acceptances ∧ ∀ topic message rest, publisher.agenda = (topic, message) :: rest →
      pending.Sublist (registered topic)

/-- The messages of an agenda, numbered from a position on. -/
def postings (index position : Nat) (agenda : List (String × Message)) : List (Posting Message) :=
  (agenda.zipIdx position).map fun publication =>
    ⟨index, publication.2, publication.1.1, publication.1.2⟩

variable (registered : String → List Nat)

/-- Whether a mailbox is registered under the topic of a message. -/
def isFor (id : Nat) (posting : Posting Message) : Bool := id ∈ registered posting.topic

/-- The mailboxes that have yet to be offered the first message of the agenda. -/
def pending (topic : String) (publisher : Publisher Message) : List Nat :=
  match publisher.offering with
  | none => registered topic
  | some (pending, _) => pending

/-- What a publisher has yet to offer to a mailbox. -/
def ahead (index id : Nat) (publisher : Publisher Message) : List (Posting Message) :=
  match publisher.agenda with
  | [] => []
  | (topic, message) :: rest =>
    (if id ∈ publisher.pending registered topic then
      [⟨index, publisher.position, topic, message⟩] else []) ++
      (postings index (publisher.position + 1) rest).filter (isFor registered id)

theorem ahead_of_not_begun (index id : Nat) (agenda : List (String × Message)) (position : Nat) :
    ahead registered index id ⟨agenda, position, none⟩ =
      (postings index position agenda).filter (isFor registered id) := by
  cases agenda with
  | nil => rfl
  | cons publication rest =>
    rw [ahead, postings, List.zipIdx_cons, List.map_cons, List.filter_cons]
    show (if id ∈ registered publication.1 then _ else _) ++ _ =
      if decide (id ∈ registered publication.1) = true then _ else _
    by_cases listed : id ∈ registered publication.1
    · rw [if_pos listed, if_pos (decide_eq_true listed)]
      rfl
    · rw [if_neg listed, if_neg (by simpa using listed)]
      rfl

theorem ahead_of_offering (index id : Nat) (topic : String) (message : Message)
    (rest : List (String × Message)) (position : Nat) (pending : List Nat)
    (acceptances : List Acceptance) :
    ahead registered index id ⟨(topic, message) :: rest, position, some (pending, acceptances)⟩ =
      (if id ∈ pending then [⟨index, position, topic, message⟩] else []) ++
        (postings index (position + 1) rest).filter (isFor registered id) := rfl

end Publisher

namespace SharedBus

/-- A message offered to a mailbox, and whether the mailbox took it. -/
structure Offer (Message : Type) where
  id : Nat
  posting : Posting Message
  taken : Bool

/-- The offer that an answer tells of. -/
def Answer.offers : Answer Message → List (Offer Message)
  | offered posting id acceptance => [⟨id, posting, acceptance = .queued⟩]
  | _ => []

/-- The posting of an offer by this publisher to this mailbox. -/
def Offer.between (index id : Nat) (offer : Offer Message) : List (Posting Message) :=
  if offer.posting.publisher = index ∧ offer.id = id then [offer.posting] else []

/-- The message that an answer gives to the receiver of a mailbox. -/
def Answer.given (id : Nat) : Answer Message → List Message
  | received other (.message message) => if other = id then [message] else []
  | _ => []

/-- The posting of an offer that this mailbox took. -/
def Offer.accepted (id : Nat) (offer : Offer Message) : List (Posting Message) :=
  if offer.taken = true ∧ offer.id = id then [offer.posting] else []

end SharedBus

namespace Publisher

variable {registered : String → List Nat} {bus : Bus Message} {publisher : Publisher Message}

/-- An offer to a mailbox takes the message off what is ahead. -/
theorem offers_append_ahead (orderly : publisher.Orderly registered)
    (lookup : bus.registered = registered) (once : ∀ topic, (registered topic).Nodup)
    (index id : Nat) :
    (publisher.advance bus index).2.offers.flatMap (SharedBus.Offer.between index id) ++
        (publisher.advance bus index).1.2.ahead registered index id =
      publisher.ahead registered index id := by
  match publisher with
  | ⟨[], _, _⟩ => rfl
  | ⟨(topic, message) :: rest, position, none⟩ =>
    rw [← lookup]
    rfl
  | ⟨(topic, message) :: rest, position, some (other :: later, acceptances)⟩ =>
    have distinct : (other :: later).Nodup :=
      (once topic).sublist ((orderly _ _ rfl).2 topic message rest rfl)
    rw [List.nodup_cons] at distinct
    show List.flatMap _ [_] ++ ahead registered index id
      ⟨(topic, message) :: rest, position, some (later, acceptances ++ [_])⟩ = _
    rw [ahead_of_offering, ahead_of_offering, List.flatMap_cons, List.flatMap_nil, List.append_nil]
    by_cases own : other = id
    · subst own
      simp [SharedBus.Offer.between, distinct.1]
    · simp [SharedBus.Offer.between, own, Ne.symm own]
  | ⟨_ :: rest, position, some ([], acceptances)⟩ =>
    exact ahead_of_not_begun registered index id rest (position + 1)

/-- What a publisher does changes no registration, and keeps it in order, while all receivers of
registered mailboxes are there. -/
theorem advance_frame (orderly : publisher.Orderly registered)
    (lookup : bus.registered = registered)
    (alive : ∀ topic, ∀ id ∈ registered topic, bus.waiting? id ≠ none) (index : Nat) :
    (publisher.advance bus index).1.1.registry = bus.registry ∧
      (publisher.advance bus index).1.1.capacity = bus.capacity ∧
      (∀ id, (publisher.advance bus index).1.1.waiting? id = none ↔ bus.waiting? id = none) ∧
      (publisher.advance bus index).1.2.Orderly registered := by
  match publisher with
  | ⟨[], _, _⟩ => exact ⟨rfl, rfl, fun _ => Iff.rfl, orderly⟩
  | ⟨(topic, message) :: rest, position, none⟩ =>
    refine ⟨rfl, rfl, fun _ => Iff.rfl, ?_⟩
    rintro _ _ ⟨⟩
    refine ⟨List.not_mem_nil, ?_⟩
    rintro _ _ _ ⟨⟩
    exact lookup ▸ List.Sublist.refl _
  | ⟨(topic, message) :: rest, position, some (other :: later, acceptances)⟩ =>
    obtain ⟨present, listed⟩ := orderly _ _ rfl
    have sublist := listed topic message rest rfl
    obtain ⟨registry, capacity, -⟩ := bus.offer_frame message other
    refine ⟨registry, capacity, fun id => ?_, ?_⟩
    · show (bus.offer message other).1.waiting? id = none ↔ _
      rw [Bus.waiting?_offer]
      split
      · exact Option.map_eq_none_iff
      · exact Iff.rfl
    · rintro _ _ ⟨⟩
      refine ⟨fun gone => ?_, ?_⟩
      · rcases List.mem_append.mp gone with earlier | now
        · exact present earlier
        · have said : (bus.offer message other).2 = bus.acceptance other := by rw [Bus.offer_eq]
          exact alive topic other (sublist.subset List.mem_cons_self)
            ((Bus.acceptance_eq_gone_iff bus other).mp
              (said.symm.trans (List.mem_singleton.mp now).symm))
      · rintro _ _ _ ⟨⟩
        exact (List.sublist_cons_self other later).trans sublist
  | ⟨_ :: rest, position, some ([], acceptances)⟩ =>
    have unpruned : (if .gone ∈ acceptances then bus.prune else bus) = bus :=
      if_neg (orderly _ _ rfl).1
    rw [advance, unpruned]
    exact ⟨rfl, rfl, fun _ => Iff.rfl, nofun⟩

/-- A publisher offers its own messages only. -/
theorem publisher_of_mem_offers {index : Nat} {offer : SharedBus.Offer Message}
    (made : offer ∈ (publisher.advance bus index).2.offers) : offer.posting.publisher = index := by
  match publisher with
  | ⟨[], _, _⟩ | ⟨_ :: _, _, none⟩ | ⟨_ :: _, _, some ([], _)⟩ => cases made
  | ⟨(topic, message) :: rest, position, some (other :: later, acceptances)⟩ =>
    rw [List.mem_singleton.mp made]

theorem given_advance (bus : Bus Message) (publisher : Publisher Message) (index id : Nat) :
    (publisher.advance bus index).2.given id = [] := by
  match publisher with
  | ⟨[], _, _⟩ | ⟨_ :: _, _, none⟩ => rfl
  | ⟨_ :: _, _, some ([], _)⟩ | ⟨_ :: _, _, some (_ :: _, _)⟩ => rfl

/-- A mailbox gets the messages that it takes. -/
theorem queued_advance (index id : Nat) :
    (publisher.advance bus index).1.1.queued id = bus.queued id ++
      ((publisher.advance bus index).2.offers.flatMap (SharedBus.Offer.accepted id)).map
        (·.message) := by
  match publisher with
  | ⟨[], _, _⟩ | ⟨_ :: _, _, none⟩ => exact (List.append_nil _).symm
  | ⟨(topic, message) :: rest, position, some (other :: later, acceptances)⟩ =>
    let offer : SharedBus.Offer Message :=
      ⟨other, ⟨index, position, topic, message⟩, (bus.offer message other).2 = .queued⟩
    show (bus.offer message other).1.queued id = _ ++ List.map _ (List.flatMap _ [offer])
    rw [List.flatMap_cons, List.flatMap_nil, List.append_nil, Bus.queued_offer,
      show offer = ⟨other, _, (bus.offer message other).2 = .queued⟩ from rfl, Bus.offer_eq]
    by_cases own : id = other
    · by_cases taken : bus.acceptance other = .queued <;>
        simp [SharedBus.Offer.accepted, own, taken]
    · simp [SharedBus.Offer.accepted, own, Ne.symm own]
  | ⟨_ :: rest, position, some ([], acceptances)⟩ =>
    refine Eq.trans ?_ (List.append_nil _).symm
    rw [advance]
    dsimp only
    split <;> rfl

/-- What the mailboxes said that were offered the message on its way. -/
def acceptances (publisher : Publisher Message) : List Acceptance :=
  publisher.offering.elim [] Prod.snd

theorem Orderly.not_gone (orderly : publisher.Orderly registered) :
    .gone ∉ publisher.acceptances := by
  unfold acceptances
  cases offering : publisher.offering with
  | none => exact List.not_mem_nil
  | some progress => exact (orderly progress.1 progress.2 offering).1

/-- A publisher prepares offers, or makes one, or counts who took the message and goes on to the
next. -/
theorem advance_cases (bus : Bus Message) (index : Nat) (publisher : Publisher Message) :
    let after := (publisher.advance bus index).1.2
    let answer := (publisher.advance bus index).2
    (answer = .done ∧ after.position = publisher.position ∧
        after.acceptances = publisher.acceptances ∧
        after.agenda.length = publisher.agenda.length) ∨
      (∃ posting id acceptance, answer = .offered posting id acceptance ∧
        posting.publisher = index ∧ posting.position = publisher.position ∧
        (acceptance = .full → bus.capacity ≤ (bus.queued id).length) ∧
        after.position = publisher.position ∧
        after.acceptances = publisher.acceptances ++ [acceptance] ∧
        after.agenda.length = publisher.agenda.length) ∨
      answer = .returned index (publisher.acceptances.count .queued) ∧
        after.position = publisher.position + 1 ∧ after.acceptances = [] ∧
        after.agenda.length + 1 = publisher.agenda.length := by
  match publisher with
  | ⟨[], _, _⟩ | ⟨_ :: _, _, none⟩ => exact .inl ⟨rfl, rfl, rfl, rfl⟩
  | ⟨(topic, message) :: rest, position, some (other :: later, acceptances)⟩ =>
    refine .inr (.inl ⟨⟨index, position, topic, message⟩, other, (bus.offer message other).2, rfl,
      rfl, rfl, fun full => ?_, rfl, rfl, rfl⟩)
    rw [Bus.offer_eq] at full
    exact bus.capacity_le_of_full full
  | ⟨_ :: _, _, some ([], _)⟩ => exact .inr (.inr ⟨rfl, rfl, rfl, rfl⟩)

/-! How many turns a publisher takes. -/

/-- How many turns the publications of an agenda take: one to look up the mailboxes, one for each
offer and one to return. -/
def cost (registered : String → List Nat) : List (String × Message) → Nat
  | [] => 0
  | (topic, _) :: rest => (registered topic).length + 2 + cost registered rest

/-- How many turns a publisher has yet to take. -/
def remaining (registered : String → List Nat) (publisher : Publisher Message) : Nat :=
  match publisher.agenda with
  | [] => 0
  | (topic, _) :: rest =>
    (match publisher.offering with
      | none => (registered topic).length + 2
      | some (pending, _) => pending.length + 1) + cost registered rest

theorem remaining_of_not_begun (agenda : List (String × Message)) (position : Nat) :
    remaining registered ⟨agenda, position, none⟩ = cost registered agenda := by
  cases agenda <;> rfl

theorem agenda_of_remaining (finished : publisher.remaining registered = 0) :
    publisher.agenda = [] := by
  match publisher with
  | ⟨[], _, _⟩ => rfl
  | ⟨_ :: _, _, none⟩ | ⟨_ :: _, _, some _⟩ => simp [remaining] at finished

theorem remaining_advance (lookup : bus.registered = registered) (index : Nat)
    (publisher : Publisher Message) :
    (publisher.advance bus index).1.2.remaining registered =
      publisher.remaining registered - 1 := by
  match publisher with
  | ⟨[], _, _⟩ => rfl
  | ⟨(topic, _) :: rest, _, none⟩ =>
    show (bus.registered topic).length + 1 + cost registered rest =
      (registered topic).length + 2 + cost registered rest - 1
    rw [lookup]
    omega
  | ⟨_ :: rest, _, some (_ :: later, _)⟩ =>
    show later.length + 1 + cost registered rest =
      later.length + 1 + 1 + cost registered rest - 1
    omega
  | ⟨_ :: rest, position, some ([], _)⟩ =>
    show remaining registered ⟨rest, position + 1, none⟩ = 0 + 1 + cost registered rest - 1
    rw [remaining_of_not_begun]
    omega

end Publisher

/-! ### Turns -/

namespace SharedBus

/-- What is kept while no mailbox comes or goes and all receivers are there. -/
structure Sound (origin : Bus Message) (shared : SharedBus Message) : Prop where
  registry : shared.bus.registry = origin.registry
  capacity : shared.bus.capacity = origin.capacity
  alive : ∀ topic, ∀ id ∈ origin.registered topic, shared.bus.waiting? id ≠ none
  orderly : ∀ publisher ∈ shared.publishers, publisher.Orderly origin.registered

variable {origin : Bus Message} {shared : SharedBus Message}

theorem Sound.lookup (sound : shared.Sound origin) :
    shared.bus.registered = origin.registered := by
  funext topic
  rw [Bus.registered_eq, sound.registry, Bus.registered_eq]

theorem Sound.perform (sound : shared.Sound origin) (turn : Turn) :
    (shared.perform turn).1.Sound origin := by
  cases turn with
  | receive id =>
    obtain ⟨registry, capacity, -⟩ := shared.bus.receive_frame id
    refine ⟨registry.trans sound.registry, capacity.trans sound.capacity, ?_, sound.orderly⟩
    intro topic other listed gone
    refine sound.alive topic other listed ?_
    rw [SharedBus.perform, Bus.waiting?_receive] at gone
    split at gone
    · exact Option.map_eq_none_iff.mp gone
    · exact gone
  | proceed index =>
    rw [SharedBus.perform]
    cases found : shared.publishers[index]? with
    | none => exact sound
    | some publisher =>
      obtain ⟨registry, capacity, waiting, orderly⟩ := Publisher.advance_frame
        (sound.orderly publisher (List.mem_of_getElem? found)) sound.lookup sound.alive index
      refine ⟨registry.trans sound.registry, capacity.trans sound.capacity, ?_, ?_⟩
      · exact fun topic id listed gone => sound.alive topic id listed ((waiting id).mp gone)
      · intro other member
        rcases List.mem_or_eq_of_mem_set member with old | rfl
        · exact sound.orderly other old
        · exact orderly

/-- What a publisher of this index has yet to offer to a mailbox. -/
def ahead (origin : Bus Message) (index id : Nat) (shared : SharedBus Message) :
    List (Posting Message) :=
  shared.publishers[index]?.elim [] (Publisher.ahead origin.registered index id)

theorem offers_append_ahead (sound : shared.Sound origin)
    (once : ∀ topic, (origin.registered topic).Nodup) (index id : Nat) (turn : Turn) :
    (shared.perform turn).2.offers.flatMap (Offer.between index id) ++
        (shared.perform turn).1.ahead origin index id =
      shared.ahead origin index id := by
  cases turn with
  | receive other => rfl
  | proceed other =>
    rw [SharedBus.perform]
    cases found : shared.publishers[other]? with
    | none => rfl
    | some publisher =>
      have orderly := sound.orderly publisher (List.mem_of_getElem? found)
      by_cases own : other = index
      · subst own
        have taken := Publisher.offers_append_ahead orderly sound.lookup once other id
        rw [ahead, ahead, found, List.getElem?_set_self (List.getElem?_eq_some_iff.mp found).1]
        exact taken
      · have foreign : (publisher.advance shared.bus other).2.offers.flatMap
            (Offer.between index id) = [] := by
          rw [List.flatMap_eq_nil_iff]
          intro offer made
          rw [Offer.between, Publisher.publisher_of_mem_offers made, if_neg fun same => own same.1]
        rw [ahead, ahead, List.getElem?_set_ne own]
        exact congrArg (· ++ _) foreign

/-- A mailbox keeps what it takes until its receiver is given it. -/
theorem given_append_queued (shared : SharedBus Message) (id : Nat) (turn : Turn) :
    (shared.perform turn).2.given id ++ (shared.perform turn).1.bus.queued id =
      shared.bus.queued id ++
        ((shared.perform turn).2.offers.flatMap (Offer.accepted id)).map (·.message) := by
  cases turn with
  | receive other =>
    show Answer.given id (.received other (shared.bus.receive other).2) ++
      (shared.bus.receive other).1.queued id = shared.bus.queued id ++ []
    rw [List.append_nil]
    by_cases own : id = other
    · subst own
      rw [Bus.queued_eq, Bus.queued_eq, Bus.waiting?_receive, Bus.receive_snd, if_pos rfl]
      match shared.bus.waiting? id with
      | none => rfl
      | some [] =>
        dsimp only
        split <;> rfl
      | some (message :: rest) =>
        rw [Answer.given, if_pos rfl]
        rfl
    · have nothing : Answer.given id (.received other (shared.bus.receive other).2) = [] := by
        cases (shared.bus.receive other).2 with
        | message found => exact if_neg (Ne.symm own)
        | _ => rfl
      rw [nothing, Bus.queued_eq, Bus.waiting?_receive, if_neg own]
      rfl
  | proceed index =>
    rw [perform]
    cases shared.publishers[index]? with
    | none => exact (List.append_nil _).symm
    | some publisher =>
      have nothing := publisher.given_advance shared.bus index id
      exact (congrArg (· ++ _) nothing).trans (Publisher.queued_advance index id)

/-- What a turn does to the publisher of an index, and what it tells of it. -/
theorem perform_cases (shared : SharedBus Message) (turn : Turn) {index : Nat}
    {publisher : Publisher Message} (found : shared.publishers[index]? = some publisher) :
    (turn = .proceed index ∧
        (shared.perform turn).1.publishers[index]? =
          some (publisher.advance shared.bus index).1.2 ∧
        (shared.perform turn).2 = (publisher.advance shared.bus index).2) ∨
      (turn ≠ .proceed index ∧
        (shared.perform turn).1.publishers[index]? = some publisher ∧
        (∀ offer ∈ (shared.perform turn).2.offers, offer.posting.publisher ≠ index) ∧
        ∀ delivered, (shared.perform turn).2 ≠ .returned index delivered) := by
  cases turn with
  | receive id => exact .inr ⟨nofun, found, fun _ => nofun, fun _ => nofun⟩
  | proceed other =>
    by_cases own : other = index
    · subst own
      refine .inl ⟨rfl, ?_, ?_⟩
      · rw [perform, found]
        exact List.getElem?_set_self (List.getElem?_eq_some_iff.mp found).1
      · rw [perform, found]
    · refine .inr ⟨fun same => own (Turn.proceed.inj same), ?_⟩
      rw [perform]
      cases present : shared.publishers[other]? with
      | none => exact ⟨found, fun _ => nofun, fun _ => nofun⟩
      | some another =>
        refine ⟨(List.getElem?_set_ne own).trans found, fun offer made => ?_, fun delivered => ?_⟩
        · rw [Publisher.publisher_of_mem_offers made]
          exact own
        · rcases another.advance_cases shared.bus other with ⟨done, -⟩ |
            ⟨_, _, _, offered, -⟩ | ⟨returned, -⟩
          · exact fun same => by cases done.symm.trans same
          · exact fun same => by cases offered.symm.trans same
          · exact fun same => own (Answer.returned.inj (returned.symm.trans same)).1

end SharedBus

end ServerMonitor
