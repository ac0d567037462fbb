/-
This file shows that no client of a hub can disturb another. What is left of the
hub when every other client is erased is all that a client can notice, together
with the broadcasts and registrations; a turn that is another client's business
does not change it, and every other turn does to it what it does to the whole hub.
So two runs that differ only in what one client does are the same to all others,
although that client may be evicted in one of them and not in the other.
-/

import ServerMonitor.Proofs.Hub.Loop

namespace ServerMonitor

open Registry (Request Reply Scan)

/-! ### Whose business a turn is -/

/-- The client that a request is about. -/
def Registry.Request.subject? : Request → Option Nat
  | unregister id | setFilter id _ | control id _ | receive id | dropReceiver id => some id
  | register | fanOut _ | shutdown => none

namespace HubLoop

/-- The client that a turn is about. -/
def Turn.subject? : Turn → Option Nat
  | attend request => request.subject?
  | pass id => some id
  | broadcast _ | advance | cancel | abandon => none

/-- Whether a turn is not the business of other clients only. -/
def Turn.concerns (id : Nat) (turn : Turn) : Bool := turn.subject?.all (· = id)

end HubLoop

/-! ### Everything else erased -/

/-- The registry without the other clients and without the counters. -/
def Registry.only (registry : Registry) (id : Nat) : Registry :=
  { registry with
    clients := registry.clients.filter fun client => client.id = id, delivered := 0, evicted := 0 }

/-- The stage without what was found about other clients. -/
def Stage.only (id : Nat) : Stage → Stage
  | scanning event passed found =>
    scanning event (passed.filter (· = id)) ⟨0, found.slow.filter (· = id)⟩
  | settling (.scanned found) => settling (.scanned ⟨0, found.slow.filter (· = id)⟩)
  | settling (.removed _ _) => settling (.removed 0 0)
  | settling (.recorded _) => settling (.recorded 0)
  | stage => stage

def HubLoop.only (loop : HubLoop) (id : Nat) : HubLoop :=
  { loop with hub.registry := loop.hub.registry.only id, stage := loop.stage.only id }

namespace Registry

variable (registry : Registry) (id : Nat)

theorem filter_map_clients {change : Client → Client}
    (sameId : ∀ client, (change client).id = client.id) (clients : List Client) :
    (clients.map change).filter (fun client => client.id = id) =
      (clients.filter fun client => client.id = id).map change := by
  rw [List.filter_map]
  refine congrArg _ (List.filter_congr fun client _ => ?_)
  rw [Function.comp_apply, sameId]

@[simp] theorem only_only : (registry.only id).only id = registry.only id := by
  simp [only]

theorem client?_only : (registry.only id).client? id = registry.client? id := by
  simp [client?, only, List.find?_filter]

theorem contains_only : (registry.only id).contains id = registry.contains id := by
  rw [contains, contains, members, members, only, List.any_filter, List.any_filter,
    List.any_filter]
  refine congrArg _ (funext fun client => ?_)
  cases decide (client.id = id) <;> simp

section Update

variable {other : Nat} {change : Client → Client}

theorem only_update (sameId : ∀ client, (change client).id = client.id) :
    (registry.update other change).only id = (registry.only id).update other change := by
  unfold update only
  dsimp only
  rw [filter_map_clients]
  intro client
  split
  · exact sameId client
  · rfl

theorem update_only (apart : other ≠ id) :
    (registry.only id).update other change = registry.only id := by
  have untouched : (registry.only id).clients.map
      (fun client => if client.id = other then change client else client) =
      (registry.only id).clients := by
    refine (List.map_congr_left fun client member => ?_).trans (List.map_id _)
    have own : client.id = id := of_decide_eq_true (List.mem_filter.mp member).2
    rw [if_neg fun same => apart (same.symm.trans own)]
    rfl
  rw [update, untouched]

/-- A change of another client is not seen. -/
theorem only_update_of_ne (sameId : ∀ client, (change client).id = client.id)
    (apart : other ≠ id) : (registry.update other change).only id = registry.only id := by
  rw [only_update registry id sameId, update_only registry id apart]

end Update

/-- What is asked about another client is not seen. -/
theorem only_perform_of_ne {request : Request} {other : Nat}
    (about : request.subject? = some other) (apart : other ≠ id) :
    (registry.perform request).1.only id = registry.only id := by
  cases request with
  | register | fanOut event | shutdown => cases about
  | unregister _ =>
    cases about
    refine registry.only_update_of_ne id (fun client => ?_) apart
    split <;> rfl
  | setFilter _ filter | control _ text | dropReceiver _ =>
    cases about
    exact registry.only_update_of_ne id (fun client => rfl) apart
  | receive _ =>
    cases about
    show (registry.receive other).1.only id = _
    unfold receive
    split
    · rfl
    · split
      · exact registry.only_update_of_ne id (fun client => rfl) apart
      · rfl

/-- A change is made to what is seen of the registry. -/
theorem only_update_only {other : Nat} {change : Client → Client}
    (sameId : ∀ client, (change client).id = client.id) :
    (registry.update other change).only id =
      ((registry.only id).update other change).only id := by
  rw [only_update registry id sameId, only_update (registry.only id) id sameId, only_only]

/-- Registrations, and what is asked about a client, are done to what is seen of the registry. -/
theorem only_perform {stage : Stage} {request : Request} (admitted : stage.admits request = true)
    (about : request.subject?.all (· = id) = true) :
    (registry.perform request).1.only id = ((registry.only id).perform request).1.only id ∧
      (registry.perform request).2 = ((registry.only id).perform request).2 := by
  cases request with
  | fanOut event | shutdown => cases stage <;> cases admitted
  | register =>
    show registry.register.1.only id = (registry.only id).register.1.only id ∧
      Reply.granted registry.register.2 = .granted (registry.only id).register.2
    unfold register
    rw [show (registry.only id).closed = registry.closed from rfl]
    cases registry.closed with
    | true => exact ⟨(registry.only_only id).symm, rfl⟩
    | false =>
      refine ⟨?_, rfl⟩
      simp [only]
  | unregister other =>
    refine ⟨registry.only_update_only id fun client => ?_, ?_⟩
    · split <;> rfl
    · obtain rfl : other = id := of_decide_eq_true about
      exact congrArg Reply.removed (registry.contains_only other).symm
  | setFilter other filter | control other text | dropReceiver other =>
    exact ⟨registry.only_update_only id fun client => rfl, rfl⟩
  | receive other =>
    obtain rfl : other = id := of_decide_eq_true about
    show (registry.receive other).1.only other =
        ((registry.only other).receive other).1.only other ∧
      Reply.received (registry.receive other).2 = .received ((registry.only other).receive other).2
    unfold receive
    rw [client?_only]
    cases registry.client? other with
    | none => exact ⟨(registry.only_only other).symm, rfl⟩
    | some client =>
      dsimp only
      cases client.outbox with
      | nil => exact ⟨(registry.only_only other).symm, rfl⟩
      | cons event rest => exact ⟨registry.only_update_only other fun client => rfl, rfl⟩

/-- Two changes that agree on a client leave the same of it, whoever else is there. -/
theorem filter_map_clients_congr {change other : Client → Client}
    (sameId : ∀ client, (change client).id = client.id)
    (otherSameId : ∀ client, (other client).id = client.id)
    (agree : ∀ client, client.id = id → change client = other client) (clients : List Client) :
    (clients.map change).filter (fun client => client.id = id) =
      ((clients.filter fun client => client.id = id).map other).filter
        fun client => client.id = id := by
  rw [filter_map_clients id sameId, filter_map_clients id otherSameId, List.filter_filter]
  simp only [Bool.and_self]
  exact List.map_congr_left fun client member =>
    agree client (of_decide_eq_true (List.mem_filter.mp member).2)

/-- A part of a scan is made of what is seen of the registry. -/
theorem only_scanOnly (event : Event) (picked others : Nat → Bool)
    (same : picked id = others id) :
    (registry.scanOnly event picked).1.only id =
        ((registry.only id).scanOnly event others).1.only id ∧
      (registry.scanOnly event picked).2.slow.filter (· = id) =
        ((registry.only id).scanOnly event others).2.slow.filter (· = id) := by
  have sameId (test : Nat → Bool) (client : Client) :
      (if test client.id then client.take registry.capacity event else client).id =
        client.id := by
    split
    · exact client.take_id _ event
    · rfl
  constructor
  · refine congrArg (fun clients =>
      ({ registry with clients, delivered := 0, evicted := 0 } : Registry)) ?_
    exact filter_map_clients_congr id (sameId picked) (sameId others)
      (fun client own => by rw [own, same]) registry.clients
  · show ((registry.clients.filter _).map _).filter _ =
      (((registry.clients.filter _).filter _).map _).filter _
    rw [List.filter_map, List.filter_map, List.filter_filter, List.filter_filter,
      List.filter_filter]
    refine congrArg _ (List.filter_congr fun client _ => ?_)
    by_cases own : client.id = id
    · simp only [Function.comp_apply, own, same, decide_true, Bool.true_and,
        Bool.and_true]
      rfl
    · simp [own]

theorem scanOnly_none (event : Event) :
    registry.scanOnly event (fun _ => false) = (registry, ⟨0, []⟩) := by
  simp [scanOnly]

theorem only_evict (slow : List Nat) :
    (registry.evict slow).1.only id =
      ((registry.only id).evict (slow.filter (· = id))).1.only id := by
  have sameId (found : List Nat) (client : Client) :
      (if client.isRegistered && found.contains client.id then
        { client with standing := .evicted } else client).id = client.id := by
    split <;> rfl
  refine congrArg (fun clients =>
    ({ registry with clients, delivered := 0, evicted := 0 } : Registry)) ?_
  refine filter_map_clients_congr id (sameId slow) (sameId _) (fun client own => ?_)
    registry.clients
  rw [own]
  simp

theorem only_shutdown :
    registry.shutdown.only id = (registry.only id).shutdown.only id := by
  have sameId (client : Client) : (if client.isRegistered then
      { client with standing := .cleared } else client).id = client.id := by
    split <;> rfl
  refine congrArg (fun clients =>
    ({ registry with clients, closed := true, delivered := 0, evicted := 0 } : Registry)) ?_
  exact filter_map_clients_congr id sameId sameId (fun client _ => rfl) registry.clients

end Registry

/-! ### Turns -/

namespace HubLoop

variable (loop : HubLoop) {id : Nat} {turn : Turn}

theorem stage_only_only (stage : Stage) : (stage.only id).only id = stage.only id := by
  match stage with
  | .scanning _ _ _ | .settling (.scanned _) => simp [Stage.only]
  | .polling | .holding _ | .settling (.removed _ _) | .settling (.recorded _) | .leaving
  | .closing | .ended => rfl

@[simp] theorem only_only : (loop.only id).only id = loop.only id := by
  simp [only, stage_only_only]

theorem admits_only (stage : Stage) (request : Request) :
    (stage.only id).admits request = stage.admits request := by
  match stage with
  | .scanning _ _ _ => cases request <;> rfl
  | .polling | .holding _ | .settling (.scanned _) | .settling (.removed _ _)
  | .settling (.recorded _) | .leaving | .closing | .ended => cases request <;> rfl

/-- A turn that is the business of another client is not seen. -/
theorem only_perform_of_not_concerns (other : turn.concerns id = false) :
    (loop.perform turn).1.only id = loop.only id := by
  cases turn with
  | broadcast event | advance | cancel | abandon => cases other
  | attend request =>
    obtain ⟨subject, about, apart⟩ : ∃ subject, request.subject? = some subject ∧ subject ≠ id := by
      simpa [Turn.concerns, Turn.subject?, Option.all_eq_false] using other
    rw [perform]
    cases loop.stage.admits request with
    | false => rfl
    | true =>
      exact congrArg (fun registry => ({ loop with
        hub.registry := registry, stage := loop.stage.only id } : HubLoop))
        (loop.hub.registry.only_perform_of_ne id about apart)
  | pass passing =>
    have apart : passing ≠ id := of_decide_eq_false other
    obtain ⟨hub, stage, handles⟩ := loop
    rw [perform, pass]
    cases stage with
    | scanning event passed found =>
      dsimp only
      cases passed.contains passing with
      | true => rfl
      | false =>
        obtain ⟨registry, slow⟩ := hub.registry.only_scanOnly id event
          (fun other => other = passing) (fun _ => false)
          (decide_eq_false apart.symm)
        rw [Registry.scanOnly_none] at registry slow
        simp only [Registry.only_only] at registry
        simp [only, Stage.only, Scan.add, registry, slow, apart]
    | polling | holding _ | settling _ | leaving | closing | ended => rfl

/-- Every other turn is made of what is seen of the hub. -/
theorem only_perform (concerns : turn.concerns id = true) :
    (loop.perform turn).1.only id = ((loop.only id).perform turn).1.only id ∧
      (loop.perform turn).2 = ((loop.only id).perform turn).2 := by
  obtain ⟨hub, stage, handles⟩ := loop
  cases turn with
  | broadcast event =>
    rw [perform, perform]
    cases handles with
    | false => exact ⟨(only_only ⟨hub, stage, false⟩).symm, rfl⟩
    | true =>
      have only_broadcast : (only ⟨hub, stage, true⟩ id).hub.broadcast event =
          ((only ⟨(hub.broadcast event).1, stage, true⟩ id).hub, (hub.broadcast event).2) := by
        show (if hub.running && hub.queue.length < hub.capacity then _ else _) = _
        unfold Hub.broadcast
        split <;> rfl
      refine ⟨?_, ?_⟩
      · rw [show (only ⟨hub, stage, true⟩ id).handles = true from rfl, if_pos rfl, if_pos rfl,
          only_broadcast]
        exact (only_only _).symm
      · rw [show (only ⟨hub, stage, true⟩ id).handles = true from rfl, if_pos rfl, if_pos rfl,
          only_broadcast]
  | attend request =>
    rw [perform, perform, show (only ⟨hub, stage, handles⟩ id).stage.admits request =
      stage.admits request from admits_only stage request]
    cases admitted : stage.admits request with
    | false => exact ⟨(only_only ⟨hub, stage, handles⟩).symm, rfl⟩
    | true =>
      obtain ⟨registry, reply⟩ := hub.registry.only_perform id admitted concerns
      refine ⟨?_, congrArg Answer.answered reply⟩
      simp [only, registry, stage_only_only]
  | pass passing =>
    obtain rfl : passing = id := of_decide_eq_true concerns
    refine ⟨?_, rfl⟩
    cases stage with
    | scanning event passed found =>
      obtain ⟨registry, slow⟩ := hub.registry.only_scanOnly passing event
        (fun other => other = passing) (fun other => other = passing) rfl
      by_cases again : passing ∈ passed
      · simp [perform, pass, only, Stage.only, again]
      · simp [perform, pass, only, Stage.only, Scan.add, again, registry, slow]
    | settling progress => cases progress <;> exact (only_only _).symm
    | polling | holding _ | leaving | closing | ended => exact (only_only _).symm
  | advance =>
    refine ⟨?_, rfl⟩
    cases stage with
    | scanning event passed found =>
      obtain ⟨registry, slow⟩ := hub.registry.only_scanOnly id event
        (!passed.contains ·) (!(passed.filter (· = id)).contains ·)
        (by simp)
      simpa [perform, advance, only, Stage.only, Scan.add] using And.intro registry slow
    | settling progress =>
      cases progress with
      | scanned found =>
        simp [perform, advance, only, Stage.only, hub.registry.only_evict id found.slow]
      | removed _ _ | recorded _ =>
        simp [perform, advance, only, Stage.only, Registry.only, Registry.count]
    | polling =>
      obtain ⟨registry, queue, capacity, cancelled, running⟩ := hub
      cases cancelled with
      | true => exact (only_only _).symm
      | false =>
        cases queue with
        | cons event rest => exact (only_only _).symm
        | nil => cases handles <;> exact (only_only _).symm
    | leaving => simp [perform, advance, only, Stage.only, hub.registry.only_shutdown id]
    | holding _ | closing | ended => exact (only_only _).symm
  | cancel | abandon => exact ⟨(only_only _).symm, rfl⟩

/-- Hubs of which the same is seen answer alike and stay so. -/
theorem only_perform_congr {first second : HubLoop} (concerns : turn.concerns id = true)
    (same : first.only id = second.only id) :
    (first.perform turn).1.only id = (second.perform turn).1.only id ∧
      (first.perform turn).2 = (second.perform turn).2 := by
  obtain ⟨firstAfter, firstAnswer⟩ := first.only_perform concerns
  obtain ⟨secondAfter, secondAnswer⟩ := second.only_perform concerns
  rw [firstAfter, firstAnswer, secondAfter, secondAnswer, same]
  exact ⟨rfl, rfl⟩

/-! ### Runs -/

section Runs

variable (clientCapacity broadcastCapacity : Nat)

/-- The events that a turn hands out to a client. -/
def Turn.given (id : Nat) : Turn → Answer → List Event
  | attend request, .answered reply => request.given id reply
  | _, _ => []

/-- The events that the receiver of a client was given. -/
def received (turns : List Turn) (id : Nat) : List Event :=
  Machine.log perform (fun loop turn => turn.given id (loop.perform turn).2)
    (start clientCapacity broadcastCapacity) turns

/-- Whether a turn is a broadcast or a registration. -/
def Turn.isCommon : Turn → Bool
  | broadcast _ | attend .register => true
  | _ => false

/-- The answers to broadcasts and registrations, in that order. -/
def commonAnswers (turns : List Turn) : List Answer :=
  Machine.log perform (fun loop turn => if turn.isCommon then [(loop.perform turn).2] else [])
    (start clientCapacity broadcastCapacity) turns

theorem given_of_not_concerns (other : turn.concerns id = false) (answer : Answer) :
    turn.given id answer = [] := by
  cases turn with
  | attend request =>
    cases answer with
    | answered reply =>
      cases request with
      | receive subject =>
        cases reply with
        | received receipt =>
          cases receipt with
          | message event => exact if_neg (of_decide_eq_false other)
          | _ => rfl
        | _ => rfl
      | _ => rfl
    | _ => rfl
  | _ => rfl

theorem not_isCommon_of_not_concerns (other : turn.concerns id = false) :
    turn.isCommon = false := by
  cases turn with
  | broadcast event => cases other
  | attend request =>
    cases request with
    | register => cases other
    | _ => rfl
  | _ => rfl

variable {clientCapacity broadcastCapacity}

/-- What a client notices of a run depends on nothing but the turns that are not the business of
others. -/
theorem seen_of_filter_eq {turns other : List Turn}
    (same : turns.filter (Turn.concerns id) = other.filter (Turn.concerns id)) :
    (after clientCapacity broadcastCapacity turns).only id =
        (after clientCapacity broadcastCapacity other).only id ∧
      received clientCapacity broadcastCapacity turns id =
        received clientCapacity broadcastCapacity other id ∧
      commonAnswers clientCapacity broadcastCapacity turns =
        commonAnswers clientCapacity broadcastCapacity other := by
  have aside (loop : HubLoop) (turn : Turn) (other : turn.concerns id = false) :
      (loop.perform turn).1.only id = loop.only id := loop.only_perform_of_not_concerns other
  have alike (first second : HubLoop) (turn : Turn) (concerns : turn.concerns id = true)
      (same : first.only id = second.only id) :
      (first.perform turn).1.only id = (second.perform turn).1.only id :=
    (only_perform_congr concerns same).1
  refine ⟨Machine.view_run_eq perform (·.only id) (Turn.concerns id) aside alike same _,
    Machine.log_eq perform (·.only id) (Turn.concerns id) aside alike same _ ?_ ?_ _,
    Machine.log_eq perform (·.only id) (Turn.concerns id) aside alike same _ ?_ ?_ _⟩
  · exact fun loop turn other => given_of_not_concerns other _
  · exact fun _ _ turn concerns same =>
      congrArg (turn.given id) (only_perform_congr concerns same).2
  · intro loop turn other
    rw [not_isCommon_of_not_concerns other]
    rfl
  · intro _ _ turn concerns same
    rw [(only_perform_congr concerns same).2]

end Runs

/-- A client cannot disturb another. Let two runs be the same in what concerns any other client: the
broadcasts, the turns of the loop, the registrations, the cancellation, and the client's own
requests and its turns in the scans. They may differ in whatever one client does, and in the order
in which scans pass the clients. Then they leave every other client with the same membership, filter
and outbox, and with the same events received, and all broadcasts and registrations are answered
alike. -/
theorem others_undisturbed (clientCapacity broadcastCapacity disturber : Nat)
    (turns other : List Turn)
    (same : ∀ id, id ≠ disturber →
      turns.filter (Turn.concerns id) = other.filter (Turn.concerns id)) :
    let now := after clientCapacity broadcastCapacity turns
    let otherwise := after clientCapacity broadcastCapacity other
    (∀ id, id ≠ disturber →
      now.hub.registry.contains id = otherwise.hub.registry.contains id ∧
      now.hub.registry.client? id = otherwise.hub.registry.client? id ∧
      received clientCapacity broadcastCapacity turns id =
        received clientCapacity broadcastCapacity other id) ∧
    commonAnswers clientCapacity broadcastCapacity turns =
      commonAnswers clientCapacity broadcastCapacity other := by
  intro now otherwise
  constructor
  · intro id apart
    obtain ⟨seen, heard, -⟩ := seen_of_filter_eq (same id apart)
    have registry : now.hub.registry.only id = otherwise.hub.registry.only id :=
      congrArg (·.hub.registry) seen
    rw [← Registry.contains_only, ← Registry.client?_only, registry, Registry.contains_only,
      Registry.client?_only]
    exact ⟨rfl, rfl, heard⟩
  · exact (seen_of_filter_eq (same (disturber + 1) (Nat.succ_ne_self disturber))).2.2

/-- One client receives in time or is evicted; the other, which is passed before or after it, does
not notice. -/
theorem others_undisturbed_by_eviction :
    let scan : List Turn := [.advance, .advance]
    let settle : List Turn := [.advance, .advance, .advance, .advance]
    let start : List Turn := [.attend .register, .attend .register,
      .broadcast ⟨⟨.disks, []⟩, .epoch⟩] ++ scan ++ settle ++ [.attend (.receive 2)]
    let slow := start ++ [.broadcast ⟨⟨.shares, []⟩, .epoch⟩] ++ scan ++ [.pass 2, .pass 1] ++
      settle
    let calm := start ++ [.attend (.receive 1), .broadcast ⟨⟨.shares, []⟩, .epoch⟩] ++ scan ++
      [.pass 1, .pass 2] ++ settle
    (after 1 1 slow).hub.registry.contains 1 = false ∧
      (after 1 1 calm).hub.registry.contains 1 = true ∧
      (after 1 1 slow).hub.registry.client? 2 = (after 1 1 calm).hub.registry.client? 2 ∧
      commonAnswers 1 1 slow = commonAnswers 1 1 calm := by
  intro scan settle start slow calm
  obtain ⟨others, answers⟩ := others_undisturbed 1 1 1 slow calm fun id apart => by
    simp [slow, calm, start, scan, settle, List.filter, Turn.concerns, Turn.subject?,
      Request.subject?, apart.symm]
  exact ⟨by rfl, by rfl, (others 2 (by decide)).2.1, answers⟩

end HubLoop

end ServerMonitor
