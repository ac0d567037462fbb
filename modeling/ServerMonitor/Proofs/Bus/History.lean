/-
This file compares what a mailbox accepted with what its receiver was given. One
request either puts a message into the queue of a subscriber, or takes one out
at the front and gives it to the receiver, or does neither; so in every run the
messages received, followed by those that still wait, are the messages accepted.
Together with the equal answers of bus and switchboard this is the contract of
the bus: nothing is lost but what was published while the mailbox was full.
-/

import Mathlib.Data.List.Induction
import ServerMonitor.Proofs.Bus.Delivery

namespace ServerMonitor.Bus

variable {Message : Type}

/-! ### One request -/

/-- A request moves messages from what is admitted through the queue to what is given. -/
theorem Represents.account {bus : Bus Message} {board : Switchboard Message}
    (represents : bus.Represents board) (request : Request Message)
    (subscriber : Subscriber Message) (member : subscriber ∈ board.subscribers) :
    request.given subscriber.id (board.reply request) ++
        (subscriber.after board.capacity request).queue =
      subscriber.queue ++ board.admitted subscriber.id request := by
  have found := represents.subscriber?_of_mem subscriber member
  cases request with
  | subscribe topics => exact (List.append_nil _).symm
  | unsubscribe id topics =>
    rw [Subscriber.after]
    split <;> exact (List.append_nil _).symm
  | publish topic message =>
    rw [Subscriber.after, Switchboard.admitted, found, Option.any_some]
    split
    · rfl
    · exact (List.append_nil _).symm
  | receive id =>
    simp only [Switchboard.reply, Switchboard.admitted, List.append_nil, Subscriber.after]
    by_cases own : id = subscriber.id
    · subst own
      rw [found, Option.map_some, Option.getD_some, Subscriber.front]
      cases listening : subscriber.listening with
      | false => simp [Request.given]
      | true =>
        cases queue : subscriber.queue with
        | nil => by_cases none : subscriber.topics = ∅ <;> simp [none, Request.given]
        | cons message rest => simp [Request.given]
    · rw [if_neg fun same => own same.1]
      cases ((board.subscriber? id).map (·.front)).getD .closed with
      | message value => rw [Request.given, if_neg own, List.nil_append]
      | empty => rfl
      | closed => rfl
  | drop id =>
    rw [Subscriber.after]
    split <;> exact (List.append_nil _).symm

/-- Nothing is given to or admitted for a mailbox that does not exist. -/
theorem Represents.account_of_not_issued {bus : Bus Message} {board : Switchboard Message}
    (represents : bus.Represents board) (request : Request Message) (id : Nat)
    (unknown : ¬bus.Issued id) :
    request.given id (board.reply request) = [] ∧ board.admitted id request = [] := by
  have absent := represents.subscriber?_of_not_issued id unknown
  cases request with
  | subscribe topics => exact ⟨rfl, rfl⟩
  | unsubscribe other topics => exact ⟨rfl, rfl⟩
  | publish topic message =>
    refine ⟨rfl, ?_⟩
    rw [Switchboard.admitted, absent]
    rfl
  | receive other =>
    refine ⟨?_, rfl⟩
    rw [Switchboard.reply]
    by_cases own : other = id
    · subst own
      rw [absent]
      rfl
    · cases ((board.subscriber? other).map (·.front)).getD .closed with
      | message value => rw [Request.given, if_neg own]
      | empty => rfl
      | closed => rfl
  | drop other => exact ⟨rfl, rfl⟩

/-! ### Runs -/

theorem Represents.run (capacity : Nat) (requests : List (Request Message)) :
    (Machine.run Bus.perform (Bus.withCapacity capacity) requests).Represents
      (Machine.run Switchboard.perform (.withCapacity capacity) requests) :=
  (Machine.replies_eq_of_related Bus.perform Switchboard.perform
    (fun _ _ request represents => ⟨represents.perform_snd request, represents.perform request⟩)
    (.withCapacity capacity) requests).2

theorem received_concat (capacity : Nat) (past : List (Request Message))
    (request : Request Message) (id : Nat) :
    received (.withCapacity capacity) (past ++ [request]) id =
      received (.withCapacity capacity) past id ++ request.given id
        ((Machine.run Switchboard.perform (.withCapacity capacity) past).reply request) := by
  rw [received, received, Machine.log_concat, (Represents.run capacity past).perform_snd]

/-- Nothing was received or accepted by a mailbox that does not exist yet. -/
theorem history_of_not_issued (capacity : Nat) (requests : List (Request Message)) (id : Nat)
    (unknown : ¬(Machine.run Bus.perform (Bus.withCapacity capacity) requests).Issued id) :
    received (.withCapacity capacity) requests id = [] ∧
      Switchboard.accepted (.withCapacity capacity) requests id = [] := by
  induction requests using List.reverseRecOn with
  | nil => exact ⟨rfl, rfl⟩
  | append_singleton past request inductionHypothesis =>
    have before : ¬(Machine.run Bus.perform (Bus.withCapacity capacity) past).Issued id := by
      intro issued
      rw [Machine.run_concat] at unknown
      refine unknown ⟨issued.1, ?_⟩
      rw [nextId_perform]
      have := issued.2
      split <;> omega
    obtain ⟨receivedBefore, acceptedBefore⟩ := inductionHypothesis before
    obtain ⟨given, admitted⟩ :=
      (Represents.run capacity past).account_of_not_issued request id before
    rw [received_concat, receivedBefore, given, Switchboard.accepted_concat, acceptedBefore,
      admitted]
    exact ⟨rfl, rfl⟩

/-- What was received, followed by what waits, is what was accepted. -/
theorem received_append_queue (capacity : Nat) (requests : List (Request Message))
    (subscriber : Subscriber Message)
    (member : subscriber ∈
      (Machine.run Switchboard.perform (.withCapacity capacity) requests).subscribers) :
    received (.withCapacity capacity) requests subscriber.id ++ subscriber.queue =
      Switchboard.accepted (.withCapacity capacity) requests subscriber.id := by
  induction requests using List.reverseRecOn generalizing subscriber with
  | nil => cases member
  | append_singleton past request inductionHypothesis =>
    have represents := Represents.run capacity past
    rw [Machine.run_concat] at member
    rw [received_concat, Switchboard.accepted_concat, List.append_assoc]
    rcases List.mem_append.mp member with old | new
    · obtain ⟨before, present, rfl⟩ := List.mem_map.mp old
      rw [Subscriber.after_id, represents.account request before present, ← List.append_assoc,
        inductionHypothesis before present]
    · -- A newcomer has an empty queue, and its identity was not known before.
      have unknown : ¬(Machine.run Bus.perform (Bus.withCapacity capacity) past).Issued
          subscriber.id ∧ subscriber.queue = [] := by
        cases request with
        | subscribe topics =>
          rw [Switchboard.joining, List.mem_singleton] at new
          subst new
          refine ⟨fun issued => ?_, rfl⟩
          have below := issued.2
          rw [represents.nextId] at below
          exact Nat.lt_irrefl _ below
        | unsubscribe id topics => cases new
        | publish topic message => cases new
        | receive id => cases new
        | drop id => cases new
      obtain ⟨receivedBefore, acceptedBefore⟩ := history_of_not_issued capacity past _ unknown.1
      obtain ⟨given, admitted⟩ := represents.account_of_not_issued request _ unknown.1
      rw [receivedBefore, acceptedBefore, given, admitted, unknown.2]
      rfl

/-- In every run the bus gives the answers of the switchboard, on which each mailbox has a set of
topics and a first-in, first-out queue of its own. What the receiver of a mailbox was given,
followed by what is still queued, is exactly what the mailbox accepted: the messages published
while the receiver was alive, on a topic of its set, while the queue had room. -/
theorem behaves_as_switchboard (capacity : Nat) (requests : List (Request Message)) :
    Machine.replies Bus.perform (Bus.withCapacity capacity) requests =
        Machine.replies Switchboard.perform (.withCapacity capacity) requests ∧
      ∀ subscriber ∈
          (Machine.run Switchboard.perform (.withCapacity capacity) requests).subscribers,
        received (.withCapacity capacity) requests subscriber.id ++ subscriber.queue =
            Switchboard.accepted (.withCapacity capacity) requests subscriber.id ∧
          (Switchboard.accepted (.withCapacity capacity) requests subscriber.id).Sublist
            (requests.flatMap Request.published) ∧
          (subscriber.listening = true →
            (Machine.run Bus.perform (Bus.withCapacity capacity) requests).queued
                subscriber.id = subscriber.queue ∧
              ∀ topic, subscriber.id ∈
                  (Machine.run Bus.perform (Bus.withCapacity capacity) requests).registered
                    topic ↔ topic ∈ subscriber.topics) := by
  refine ⟨(Machine.replies_eq_of_related Bus.perform Switchboard.perform
    (fun _ _ request represents => ⟨represents.perform_snd request, represents.perform request⟩)
    (Represents.withCapacity capacity) requests).1, fun subscriber member => ?_⟩
  have serves := (Represents.run capacity requests).serves subscriber member
  refine ⟨received_append_queue capacity requests subscriber member, ?_, fun listening => ?_⟩
  · refine Machine.log_sublist_flatMap _ (fun board request => ?_) _ requests
    cases request with
    | publish topic message =>
      rw [Switchboard.admitted]
      split
      · exact List.Sublist.refl _
      · exact List.nil_sublist _
    | subscribe topics => exact List.Sublist.refl _
    | unsubscribe id topics => exact List.Sublist.refl _
    | receive id => exact List.Sublist.refl _
    | drop id => exact List.Sublist.refl _
  · refine ⟨?_, serves.mem_registered_iff listening⟩
    rw [queued_eq, serves.waiting, if_pos listening, Option.getD_some]

/-- What is missing was published while the mailbox was full, or on a topic it had given up. -/
theorem received_of_overflow :
    received (.withCapacity 1)
        [.subscribe ["a", "a", "b"], .publish "a" 1, .publish "b" 2, .receive 1,
          .unsubscribe 1 ["a"], .publish "b" 3, .publish "a" 4] 1 ++ [3] = [1, 3] := by
  obtain ⟨-, account⟩ := behaves_as_switchboard 1
    [.subscribe ["a", "a", "b"], .publish "a" 1, .publish "b" 2, .receive 1,
      .unsubscribe 1 ["a"], .publish "b" 3, .publish "a" 4]
  exact (account ⟨1, {"b"}, [3], true⟩ (by decide)).1.trans (by decide)

end ServerMonitor.Bus
