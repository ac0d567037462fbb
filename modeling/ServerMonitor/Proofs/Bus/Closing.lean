/-
This file states when a mailbox is closed and what its receiver finds from then
on. The registry holds one sender of a mailbox for each topic that the mailbox
has, so the queue closes when the last topic is taken from it; no topic ever
comes back, and what is queued can still be received. Registrations are removed
by keeping the others, which is why it does not matter in which order, in how
many requests and how often topics are given up.
-/

import Mathlib.Data.Finset.Card
import ServerMonitor.Proofs.Bus.History

namespace ServerMonitor.Bus

variable {Message : Type}

/-- The bus after a list of requests. -/
def after (capacity : Nat) (requests : List (Request Message)) : Bus Message :=
  Machine.run perform (withCapacity capacity) requests

/-! ### Senders -/

/-- How many senders of a mailbox the registry holds, one for each registration. Nothing else holds
a sender, so the queue closes when there is none left. -/
def senders (bus : Bus Message) (id : Nat) : Nat := (bus.registry.flatMap Prod.snd).count id

theorem isClosed_iff_senders_eq_zero (bus : Bus Message) (id : Nat) :
    bus.isClosed id = true ↔ bus.senders id = 0 := by
  rw [senders, List.count_eq_zero, isClosed, List.all_eq_true]
  simp only [Bool.not_eq_true', List.contains_eq_mem, decide_eq_false_iff_not, List.mem_flatMap,
    not_exists, not_and]

/-- A mailbox that is registered at most once under each topic has as many registrations as topics
that list it. -/
theorem count_registrations (registry : List (String × List Nat)) (id : Nat)
    (once : ∀ registration ∈ registry, registration.2.Nodup) :
    (registry.flatMap Prod.snd).count id =
      (registry.filter fun registration => registration.2.contains id).length := by
  induction registry with
  | nil => rfl
  | cons registration rest inductionHypothesis =>
    have tail := inductionHypothesis fun other member => once other (List.mem_cons_of_mem _ member)
    rw [List.flatMap_cons, List.count_append, tail, List.filter_cons]
    by_cases listed : id ∈ registration.2
    · rw [List.count_eq_one_of_mem (once _ List.mem_cons_self) listed,
        if_pos (by simpa using listed),
        List.length_cons, Nat.add_comm]
    · rw [List.count_eq_zero_of_not_mem listed, if_neg (by simpa using listed), Nat.zero_add]

/-- The registry holds one sender for each topic of a mailbox. -/
theorem Sound.senders_eq_card {bus : Bus Message} (sound : bus.Sound) {id : Nat}
    {topics : Finset String} (registered : ∀ topic, id ∈ bus.registered topic ↔ topic ∈ topics) :
    bus.senders id = topics.card := by
  have names : topics = ((bus.registry.filter fun registration =>
      registration.2.contains id).map Prod.fst).toFinset := by
    ext topic
    rw [List.mem_toFinset, ← registered, sound.mem_registered_iff, List.mem_map]
    constructor
    · rintro ⟨registration, found, rfl, listed⟩
      exact ⟨registration, List.mem_filter.mpr ⟨found, by simpa using listed⟩, rfl⟩
    · rintro ⟨registration, found, rfl⟩
      obtain ⟨present, holds⟩ := List.mem_filter.mp found
      exact ⟨registration, present, rfl, by simpa using holds⟩
  rw [names, List.toFinset_card_of_nodup (sound.distinctTopics.sublist
    (List.filter_sublist.map Prod.fst)), List.length_map, senders, count_registrations]
  intro registration member
  rw [← sound.registered_of_mem member]
  exact sound.registeredOnce registration.1

/-! ### Receivers of closed mailboxes -/

/-- What a receiver finds whenever it looks, as the answers tell it. -/
def Request.found (id : Nat) : Request Message → Reply Message → List (Receipt Message)
  | .receive other, .received receipt => if other = id then [receipt] else []
  | _, _ => []

/-- What the receiver of a mailbox found in a run. -/
def receipts (bus : Bus Message) (requests : List (Request Message)) (id : Nat) :
    List (Receipt Message) :=
  Machine.log perform (fun bus request => request.found id (bus.perform request).2) bus requests

/-- What a receiver finds in a closed mailbox when it looks so many times: the queue, and then that
the mailbox is closed. -/
def drained : List Message → Nat → List (Receipt Message)
  | _, 0 => []
  | [], looks + 1 => .closed :: drained [] looks
  | message :: rest, looks + 1 => .message message :: drained rest looks

/-- A closed mailbox: a subscriber without topics. -/
def leftover (id : Nat) (queue : List Message) : Subscriber Message := ⟨id, ∅, queue, true⟩

variable {bus : Bus Message} {id : Nat} {queue : List Message}

theorem Sound.serves_leftover (sound : bus.Sound) (alive : bus.waiting? id = some queue)
    (closed : bus.isClosed id = true) : bus.Serves (leftover id queue) where
  waiting := alive
  wanted topic member := absurd member ((sound.isClosed_iff id).mp closed topic)
  registered _ _ member := absurd member (Finset.notMem_empty _)

namespace Serves

theorem isClosed_leftover (served : bus.Serves (leftover id queue)) (sound : bus.Sound) :
    bus.isClosed id = true :=
  (sound.isClosed_iff id).mpr fun topic member =>
    Finset.notMem_empty topic (served.wanted topic member)

theorem queued_leftover (served : bus.Serves (leftover id queue)) : bus.queued id = queue := by
  rw [queued_eq, show bus.waiting? id = _ from served.waiting]
  rfl

/-- Unless its receiver is dropped, a closed mailbox stays closed, and its queue changes only by
what the receiver takes. -/
theorem perform_leftover (served : bus.Serves (leftover id queue)) (sound : bus.Sound)
    (issued : id < bus.nextId) {request : Request Message} (kept : request ≠ .drop id) :
    let found := request.found id (bus.perform request).2
    (bus.perform request).1.Serves (leftover id (queue.drop found.length)) ∧
      found = drained queue found.length := by
  have next := served.perform sound issued request
  cases request with
  | subscribe topics => exact ⟨next, rfl⟩
  | unsubscribe other topics =>
    refine ⟨?_, rfl⟩
    rw [Subscriber.after] at next
    split at next
    · have none : (leftover id queue).topics \ topics.toFinset = ∅ := Finset.empty_sdiff _
      rwa [none, ite_self] at next
    · exact next
  | publish topic message =>
    refine ⟨?_, rfl⟩
    have refuses : (leftover id queue).accepts bus.capacity topic = false := by
      simp [Subscriber.accepts, leftover]
    rwa [Subscriber.after, refuses] at next
  | receive other =>
    by_cases own : other = id
    · subst own
      rw [Subscriber.after, if_pos ⟨rfl, rfl⟩] at next
      have closed := served.isClosed_leftover sound
      have receipt := receive_snd bus other
      rw [show bus.waiting? other = some queue from served.waiting] at receipt
      show (bus.receive other).1.Serves (leftover other (queue.drop _)) ∧ _
      simp only [Request.found, Bus.perform, if_pos, receipt]
      change (bus.receive other).1.Serves (leftover other queue.tail) at next
      cases queue with
      | nil => exact ⟨next, by simp [closed, drained]⟩
      | cons message rest => exact ⟨next, rfl⟩
    · rw [Subscriber.after, if_neg fun same => own same.1] at next
      simp only [Request.found, Bus.perform, if_neg own]
      exact ⟨next, rfl⟩
  | drop other =>
    have different : other ≠ (leftover id queue).id := fun same =>
      kept (congrArg Request.drop same)
    rw [Subscriber.after, if_neg different] at next
    exact ⟨next, rfl⟩

end Serves

theorem drained_add (queue : List Message) (first second : Nat) :
    drained queue (first + second) =
      drained queue first ++ drained (queue.drop first) second := by
  induction first generalizing queue with
  | zero => rw [Nat.zero_add, List.drop_zero]; cases queue <;> rfl
  | succ first inductionHypothesis =>
    rw [Nat.succ_add]
    cases queue with
    | nil =>
      rw [drained, drained, inductionHypothesis, List.drop_nil, List.drop_nil, List.cons_append]
    | cons message rest =>
      rw [drained, drained, inductionHypothesis, List.drop_succ_cons, List.cons_append]

/-- From the moment at which a mailbox is closed on, its receiver finds what was queued then, and
after that nothing but the end. -/
theorem Serves.run_leftover (served : bus.Serves (leftover id queue)) (sound : bus.Sound)
    (issued : id < bus.nextId) {requests : List (Request Message)} (kept : .drop id ∉ requests) :
    let found := receipts bus requests id
    (Machine.run Bus.perform bus requests).Serves (leftover id (queue.drop found.length)) ∧
      found = drained queue found.length := by
  induction requests generalizing bus queue with
  | nil => exact ⟨served, by cases queue <;> rfl⟩
  | cons request rest inductionHypothesis =>
    rw [List.mem_cons, not_or] at kept
    obtain ⟨servedNext, foundFirst⟩ := served.perform_leftover sound issued (Ne.symm kept.1)
    have issuedNext : id < (bus.perform request).1.nextId := by
      rw [nextId_perform]
      split <;> omega
    obtain ⟨servedLater, foundLater⟩ :=
      inductionHypothesis servedNext (sound.perform request) issuedNext kept.2
    rw [List.drop_drop] at servedLater
    dsimp only
    rw [receipts, Machine.log, List.length_append]
    refine ⟨servedLater, ?_⟩
    rw [drained_add, ← foundFirst]
    exact congrArg _ foundLater

/-! ### Giving up topics -/

theorem retained_retained (bus : Bus Message) (keep other : String → Nat → Bool) :
    (bus.retained keep).retained other =
      bus.retained fun topic id => other topic id && keep topic id := by
  unfold retained
  rw [retain_retain]

theorem unsubscribe_comm (bus : Bus Message) (first second : Nat) (topics others : List String) :
    (bus.unsubscribe first topics).unsubscribe second others =
      (bus.unsubscribe second others).unsubscribe first topics := by
  simp only [unsubscribe_eq, retained_retained]
  refine congrArg bus.retained ?_
  funext topic id
  exact Bool.and_comm _ _

/-- Requests that name topics remove a mailbox from all topics that are named in any of them. -/
theorem run_unsubscribe (bus : Bus Message) (id : Nat) (topics : List String)
    (rest : List (List String)) (named : [] ∉ topics :: rest) :
    Machine.run perform bus ((topics :: rest).map (.unsubscribe id)) =
      bus.retained fun topic other =>
        !(other = id && (topics :: rest).any fun topics => topics.contains topic) := by
  have unsubscribe (bus : Bus Message) (topics : List String) (some : topics ≠ []) :
      bus.unsubscribe id topics = bus.retained fun topic other =>
        !(other = id && topics.contains topic) := by
    rw [unsubscribe_eq, List.isEmpty_eq_false_iff.mpr some]
    rfl
  induction rest generalizing bus topics with
  | nil =>
    rw [List.mem_singleton] at named
    simpa [Machine.run, perform] using unsubscribe bus topics (Ne.symm named)
  | cons next rest inductionHypothesis =>
    rw [List.mem_cons, not_or] at named
    refine (inductionHypothesis (bus.unsubscribe id topics) next named.2).trans ?_
    rw [unsubscribe bus topics (Ne.symm named.1), retained_retained]
    refine congrArg bus.retained ?_
    funext topic other
    rw [List.any_cons]
    cases decide (other = id) <;> simp [Bool.and_comm]

/-- Of requests that name topics only the topics matter that are named in any of them. -/
theorem run_unsubscribe_congr (bus : Bus Message) (id : Nat) {calls others : List (List String)}
    (named : [] ∉ calls) (otherNamed : [] ∉ others)
    (same : ∀ topic, (∃ topics ∈ calls, topic ∈ topics) ↔ ∃ topics ∈ others, topic ∈ topics) :
    Machine.run perform bus (calls.map (.unsubscribe id)) =
      Machine.run perform bus (others.map (.unsubscribe id)) := by
  -- Requests that name topics name at least one, so no calls give up as much as some do.
  have inhabited (topics : List String) (rest : List (List String)) (named : [] ∉ topics :: rest) :
      ∃ topic, ∃ listed ∈ topics :: rest, topic ∈ listed := by
    obtain ⟨topic, member⟩ := List.exists_mem_of_ne_nil topics fun empty =>
      named (empty ▸ List.mem_cons_self)
    exact ⟨topic, topics, List.mem_cons_self, member⟩
  cases calls with
  | nil =>
    cases others with
    | nil => rfl
    | cons topics rest =>
      obtain ⟨topic, found⟩ := inhabited topics rest otherNamed
      obtain ⟨_, absent, _⟩ := (same topic).mpr found
      cases absent
  | cons topics rest =>
    cases others with
    | nil =>
      obtain ⟨topic, found⟩ := inhabited topics rest named
      obtain ⟨_, absent, _⟩ := (same topic).mp found
      cases absent
    | cons otherTopics otherRest =>
      rw [run_unsubscribe bus id topics rest named,
        run_unsubscribe bus id otherTopics otherRest otherNamed]
      refine congrArg bus.retained ?_
      funext topic other
      have any : ((topics :: rest).any fun topics => topics.contains topic) =
          (otherTopics :: otherRest).any fun topics => topics.contains topic := by
        rw [Bool.eq_iff_iff, List.any_eq_true, List.any_eq_true]
        simpa only [List.contains_eq_mem, decide_eq_true_eq] using same topic
      rw [any]

/-! ### Closing is final -/

/-- A mailbox whose receiver is alive is a subscriber of the switchboard, with the topics under
which it is registered. -/
theorem exists_subscriber {capacity : Nat} {requests : List (Request Message)}
    (alive : (after capacity requests).waiting? id = some queue) :
    ∃ subscriber,
      (Machine.run Switchboard.perform (.withCapacity capacity) requests).subscriber? id =
        some subscriber ∧
      ∀ topic, id ∈ (after capacity requests).registered topic ↔ topic ∈ subscriber.topics := by
  have represents := Represents.run capacity requests
  have issued := represents.sound.waitingIssued id (by
    rw [show (Machine.run perform (withCapacity capacity) requests).waiting? id = _ from alive]
    exact Option.some_ne_none queue)
  obtain ⟨subscriber, member, rfl⟩ := List.mem_map.mp ((represents.mem_ids_iff id).mpr issued)
  have serves := represents.serves subscriber member
  have listening : subscriber.listening = true := by
    have waiting := serves.waiting
    rw [show (Machine.run perform (withCapacity capacity) requests).waiting? _ = _ from alive]
      at waiting
    by_contra silent
    rw [if_neg silent] at waiting
    cases waiting
  exact ⟨subscriber, represents.subscriber?_of_mem subscriber member,
    serves.mem_registered_iff listening⟩

/-- A mailbox whose receiver is alive is closed exactly if it is registered under no topic, which is
when the registry holds none of its senders; it holds one for each topic that the mailbox subscribed
to and did not give up since. As long as the receiver is not dropped, a closed mailbox stays closed,
no publication adds to it, and its receiver finds the messages that were queued when it closed, in
order, and after them the end. What requests that give up topics by name leave depends only on the
topics named in any of them, and such requests of several mailboxes commute. -/
theorem closing_is_final (capacity : Nat) (past : List (Request Message)) (id : Nat)
    (queue : List Message) (alive : (after capacity past).waiting? id = some queue) :
    let now := after capacity past
    (now.isClosed id = true ↔ ∀ topic, id ∉ now.registered topic) ∧
    (now.isClosed id = true ↔ now.senders id = 0) ∧
    (∃ subscriber,
      (Machine.run Switchboard.perform (.withCapacity capacity) past).subscriber? id =
        some subscriber ∧ now.senders id = subscriber.topics.card) ∧
    (now.isClosed id = true → ∀ future, .drop id ∉ future →
      let later := Machine.run perform now future
      let found := receipts now future id
      later.isClosed id = true ∧ later.queued id = queue.drop found.length ∧
        (∀ topic message, (later.publish topic message).1.queued id = later.queued id) ∧
        found = drained queue found.length) ∧
    (∀ (mailbox : Nat) (calls others : List (List String)), [] ∉ calls → [] ∉ others →
      (∀ topic, (∃ topics ∈ calls, topic ∈ topics) ↔ ∃ topics ∈ others, topic ∈ topics) →
      Machine.run perform now (calls.map (.unsubscribe mailbox)) =
        Machine.run perform now (others.map (.unsubscribe mailbox))) ∧
    ∀ (first second : Nat) (topics others : List String),
      (now.unsubscribe first topics).unsubscribe second others =
        (now.unsubscribe second others).unsubscribe first topics := by
  intro now
  have sound : now.Sound := Sound.run capacity past
  have issued : id < now.nextId := (sound.waitingIssued id (alive ▸ Option.some_ne_none queue)).2
  obtain ⟨subscriber, found, topics⟩ := exists_subscriber alive
  refine ⟨sound.isClosed_iff id, now.isClosed_iff_senders_eq_zero id,
    ⟨subscriber, found, sound.senders_eq_card topics⟩, ?_,
    fun mailbox calls others named otherNamed => now.run_unsubscribe_congr mailbox named otherNamed,
    now.unsubscribe_comm⟩
  intro closed future kept later found
  obtain ⟨served, drains⟩ := (sound.serves_leftover alive closed).run_leftover sound issued kept
  have soundLater : later.Sound := Machine.run_invariant perform Sound
    (fun _ request sound => sound.perform request) sound future
  have issuedLater : id < later.nextId :=
    (soundLater.waitingIssued id (served.waiting ▸ Option.some_ne_none _)).2
  refine ⟨served.isClosed_leftover soundLater, served.queued_leftover, fun topic message => ?_,
    drains⟩
  have published := (served.perform_leftover soundLater issuedLater
    (nofun : Request.publish topic message ≠ .drop id)).1
  exact published.queued_leftover.trans served.queued_leftover.symm

/-- A mailbox gives up its two topics in two requests, with one message in its queue. The
publication that follows misses it, and its receiver finds the message and then the end. -/
theorem receipts_of_closed_mailbox :
    receipts (after 4 [.subscribe ["a", "b", "a"], .publish "b" 7, .unsubscribe 1 ["b", "c"],
      .unsubscribe 1 ["a"]]) [.publish "a" 8, .receive 1, .receive 1] 1 =
      [.message 7, .closed] := by
  obtain ⟨-, -, -, drains, -⟩ := closing_is_final 4
    [.subscribe ["a", "b", "a"], .publish "b" 7, .unsubscribe 1 ["b", "c"], .unsubscribe 1 ["a"]]
    1 [7] (by decide)
  exact (drains (by decide) [.publish "a" 8, .receive 1, .receive 1] (by simp)).2.2.2

end ServerMonitor.Bus
