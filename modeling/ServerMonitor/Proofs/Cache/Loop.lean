/-
This file follows the loop that feeds the cache. Its mailbox is one subscriber of
the bus, which nobody else holds, so whatever else the bus is asked for only adds
to its queue. The loop moves what it takes from there into the cache.
-/

import ServerMonitor.Agent.Control
import ServerMonitor.Proofs.Bus.Delivery
import ServerMonitor.Proofs.Cache.Entries

namespace ServerMonitor

open Bus

/-! ### Activities -/

/-- The mailbox that a request names. -/
def Bus.Request.mailbox? {Message : Type} : Request Message → Option Nat
  | .unsubscribe id _ | .receive id | .drop id => some id
  | .subscribe _ | .publish _ _ => none

namespace Agent

inductive Activity
  /-- The bus is asked for something, by a publisher or the holder of another mailbox. -/
  | request (request : Request Payload)
  /-- The loop takes a step, if it can take one. -/
  | step
  /-- The token above all tasks is cancelled. The loop sees it at its next step; a loop that goes on
  for a while is one whose token is cancelled later. -/
  | cancel

/-- The messages that the loop takes in its next step. -/
def takes (agent : Agent) : List Payload :=
  ((agent.cacheLoop.step? agent.cancelled agent.bus).bind (·.2)).toList

/-- What an activity does to the agent, and what the loop takes. Nobody but the loop holds its
mailbox, so nobody else makes requests about it. -/
def perform : Machine Agent Activity (List Payload)
  | agent, .request request =>
    if request.mailbox? = some agent.cacheLoop.mailbox then (agent, [])
    else ({ agent with bus := (agent.bus.perform request).1 }, [])
  | agent, .step => (agent.stepCacheLoop?.getD agent, agent.takes)
  | agent, .cancel => (agent.cancel, [])

/-- The message that is published on a bound topic while the mailbox of the loop is subscribed and
has room. -/
def admits (agent : Agent) : Activity → List Payload
  | .request (.publish topic payload) =>
    if agent.cacheLoop.running = true ∧ topic ∈ Dispatch.standard.topics ∧
        (agent.bus.queued agent.cacheLoop.mailbox).length < agent.bus.capacity then
      [payload]
    else []
  | _ => []

/-! ### The loop's mailbox -/

/-- The mailbox of the loop, with this queue, as a subscriber of the bus. -/
def listener (agent : Agent) (queue : List Payload) : Subscriber Payload where
  id := agent.cacheLoop.mailbox
  topics := if agent.cacheLoop.running then Dispatch.standard.topics.toFinset else ∅
  queue
  listening := agent.cacheLoop.running

/-- The bus serves the loop as long as it runs, and has forgotten it afterwards. -/
structure Listens (agent : Agent) (queue : List Payload) : Prop where
  sound : agent.bus.Sound
  issued : agent.cacheLoop.mailbox < agent.bus.nextId
  serves : agent.bus.Serves (agent.listener queue)

namespace Listens

variable {agent : Agent} {queue : List Payload}

theorem queued (listens : agent.Listens queue) (running : agent.cacheLoop.running = true) :
    agent.bus.queued agent.cacheLoop.mailbox = queue := by
  rw [queued_eq, show agent.bus.waiting? agent.cacheLoop.mailbox = _ from listens.serves.waiting]
  rw [listener, running]
  rfl

/-- The mailbox is subscribed to the bound topics while the loop runs, and to no topic once it
has ended. -/
theorem mem_registered_iff (listens : agent.Listens queue) (topic : String) :
    agent.cacheLoop.mailbox ∈ agent.bus.registered topic ↔
      agent.cacheLoop.running = true ∧ topic ∈ Dispatch.standard.topics := by
  constructor
  · intro registered
    have wanted : topic ∈ (agent.listener queue).topics := listens.serves.wanted topic registered
    unfold listener at wanted
    cases running : agent.cacheLoop.running with
    | true =>
      rw [running] at wanted
      exact ⟨rfl, List.mem_toFinset.mp wanted⟩
    | false =>
      rw [running] at wanted
      exact absurd wanted (Finset.notMem_empty topic)
  · rintro ⟨running, bound⟩
    refine listens.serves.registered running topic ?_
    rw [listener, running]
    exact List.mem_toFinset.mpr bound

/-- The mailbox is open as long as the loop runs. -/
theorem isClosed_eq_false (listens : agent.Listens queue)
    (running : agent.cacheLoop.running = true) :
    agent.bus.isClosed agent.cacheLoop.mailbox = false := by
  rw [Bool.eq_false_iff]
  intro closed
  refine (listens.sound.isClosed_iff _).mp closed Kind.host.topic ?_
  exact (listens.mem_registered_iff _).mpr ⟨running, by decide⟩

/-- Requests that are not about the mailbox only add what is admitted. -/
theorem request (listens : agent.Listens queue) (request : Request Payload)
    (foreign : request.mailbox? ≠ some agent.cacheLoop.mailbox) :
    Listens { agent with bus := (agent.bus.perform request).1 }
      (queue ++ agent.admits (.request request)) := by
  have served := listens.serves.perform listens.sound listens.issued request
  have after : (agent.listener queue).after agent.bus.capacity request =
      agent.listener (queue ++ agent.admits (.request request)) := by
    cases request with
    | subscribe topics => exact congrArg agent.listener (List.append_nil queue).symm
    | unsubscribe id topics =>
      have other : id ≠ (agent.listener queue).id := fun same => foreign (congrArg some same)
      rw [Subscriber.after, if_neg other]
      exact congrArg agent.listener (List.append_nil queue).symm
    | receive id =>
      have other : id ≠ (agent.listener queue).id := fun same => foreign (congrArg some same)
      rw [Subscriber.after, if_neg fun own => other own.1]
      exact congrArg agent.listener (List.append_nil queue).symm
    | drop id =>
      have other : id ≠ (agent.listener queue).id := fun same => foreign (congrArg some same)
      rw [Subscriber.after, if_neg other]
      exact congrArg agent.listener (List.append_nil queue).symm
    | publish topic payload =>
      have accepts : (agent.listener queue).accepts agent.bus.capacity topic = true ↔
          agent.cacheLoop.running = true ∧ topic ∈ Dispatch.standard.topics ∧
            (agent.bus.queued agent.cacheLoop.mailbox).length < agent.bus.capacity := by
        cases running : agent.cacheLoop.running with
        | false => simp [Subscriber.accepts, listener, running]
        | true =>
          rw [listens.queued running]
          simp [Subscriber.accepts, listener, running]
      rw [Subscriber.after, admits]
      by_cases accepted : (agent.listener queue).accepts agent.bus.capacity topic = true
      · rw [if_pos accepted, if_pos (accepts.mp accepted)]
        rfl
      · rw [if_neg accepted, if_neg fun room => accepted (accepts.mpr room), List.append_nil]
  rw [after] at served
  refine ⟨listens.sound.perform request, ?_, served⟩
  have issued := listens.issued
  show agent.cacheLoop.mailbox < (agent.bus.perform request).1.nextId
  rw [nextId_perform]
  split <;> omega

/-- The loop leaves its mailbox behind without a receiver and under no topic. -/
theorem leave (listens : agent.Listens queue) :
    Listens { agent with
      cacheLoop := (agent.cacheLoop.leave agent.bus).1
      bus := (agent.cacheLoop.leave agent.bus).2 } queue := by
  have own : agent.cacheLoop.mailbox = (agent.listener queue).id := rfl
  have soundDetached := listens.sound.perform (.unsubscribe agent.cacheLoop.mailbox [])
  have detached := listens.serves.perform listens.sound listens.issued
    (.unsubscribe agent.cacheLoop.mailbox [])
  rw [Subscriber.after, if_pos own, if_pos rfl] at detached
  have dropped := detached.perform soundDetached listens.issued (.drop agent.cacheLoop.mailbox)
  rw [Subscriber.after, if_pos own] at dropped
  exact ⟨soundDetached.perform (.drop agent.cacheLoop.mailbox), listens.issued, dropped⟩

theorem receive (listens : agent.Listens queue) (running : agent.cacheLoop.running = true) :
    Listens { agent with bus := (agent.bus.receive agent.cacheLoop.mailbox).1 } queue.tail := by
  have served := listens.serves.perform listens.sound listens.issued
    (.receive agent.cacheLoop.mailbox)
  have after : (agent.listener queue).after agent.bus.capacity (.receive agent.cacheLoop.mailbox) =
      agent.listener queue.tail := by
    rw [Subscriber.after, if_pos ⟨rfl, running⟩]
    rfl
  rw [after] at served
  refine ⟨listens.sound.perform (.receive agent.cacheLoop.mailbox), ?_, served⟩
  show agent.cacheLoop.mailbox < (agent.bus.receive agent.cacheLoop.mailbox).1.nextId
  rw [(agent.bus.receive_frame _).2.2]
  exact listens.issued

/-- A step of the loop does nothing, or ends the loop, or takes the oldest message and applies
it. -/
theorem step_cases (listens : agent.Listens queue) :
    agent.perform .step = (agent, []) ∨
      agent.perform .step = ({ agent with
        cacheLoop := (agent.cacheLoop.leave agent.bus).1
        bus := (agent.cacheLoop.leave agent.bus).2 }, []) ∨
      agent.cacheLoop.running = true ∧ ∃ payload rest, queue = payload :: rest ∧
        agent.perform .step = ({ agent with
          bus := (agent.bus.receive agent.cacheLoop.mailbox).1
          cache := (Dispatch.standard.apply payload agent.cache).1 }, [payload]) := by
  rw [perform, stepCacheLoop?, takes]
  unfold Consumer.step?
  cases running : agent.cacheLoop.running with
  | false => exact .inl rfl
  | true =>
    cases cancelled : agent.cancelled with
    | true => exact .inr (.inl rfl)
    | false =>
      have waiting : agent.bus.waiting? agent.cacheLoop.mailbox = some queue := by
        rw [show agent.bus.waiting? agent.cacheLoop.mailbox = _ from listens.serves.waiting,
          listener, running]
        rfl
      rw [← Prod.eta (agent.bus.receive agent.cacheLoop.mailbox), receive_snd, waiting]
      cases queue with
      | cons payload rest => exact .inr (.inr ⟨rfl, payload, rest, rfl, rfl⟩)
      | nil =>
        rw [listens.isClosed_eq_false running]
        exact .inl rfl

/-- An activity moves messages from what is admitted through the queue to what is taken. When the
loop ends, what is left in the queue is lost. -/
theorem perform (listens : agent.Listens queue) (activity : Activity) :
    ∃ next, (agent.perform activity).1.Listens next ∧
      (agent.perform activity).2 ++ next = queue ++ agent.admits activity := by
  cases activity with
  | request request =>
    rw [Agent.perform]
    by_cases foreign : request.mailbox? = some agent.cacheLoop.mailbox
    · have nothing : agent.admits (.request request) = [] := by
        cases request with
        | publish topic payload => cases foreign
        | _ => rfl
      rw [if_pos foreign, nothing]
      exact ⟨queue, listens, (List.append_nil queue).symm⟩
    · rw [if_neg foreign]
      exact ⟨_, listens.request request foreign, rfl⟩
  | step =>
    rcases listens.step_cases with waits | ends | ⟨running, payload, rest, rfl, taken⟩
    · rw [waits]
      exact ⟨queue, listens, (List.append_nil queue).symm⟩
    · rw [ends]
      exact ⟨queue, listens.leave, (List.append_nil queue).symm⟩
    · rw [taken]
      have received := listens.receive running
      refine ⟨rest, ⟨received.sound, received.issued, received.serves⟩, ?_⟩
      exact (List.append_nil _).symm
  | cancel =>
    exact ⟨queue, ⟨listens.sound, listens.issued, listens.serves⟩, (List.append_nil queue).symm⟩

/-- The entries change only by what is taken. -/
theorem find?_perform (listens : agent.Listens queue) (activity : Activity) {kind : Kind}
    (cached : kind ≠ .collectorState) :
    (agent.perform activity).1.cache.find? kind =
      (((agent.perform activity).2.filterMap (·.valueOf? kind)).getLast?).or
        (agent.cache.find? kind) := by
  cases activity with
  | request request =>
    rw [Agent.perform]
    split <;> rfl
  | step =>
    rcases listens.step_cases with waits | ends | ⟨-, payload, rest, -, taken⟩
    · rw [waits]
      rfl
    · rw [ends]
      rfl
    · rw [taken]
      refine (Dispatch.find?_apply_standard payload agent.cache cached).trans ?_
      rw [List.filterMap_cons]
      cases payload.valueOf? kind <;> rfl
  | cancel => rfl

end Listens

/-! ### Runs -/

/-- The agent after its loops were started on a bus that had been in use. -/
def subscribed (agent : Agent) (capacity : Nat) (past : List (Request Payload)) : Agent :=
  { agent with bus := Machine.run Bus.perform (.withCapacity capacity) past }.subscribe

theorem listens_subscribed (agent : Agent) (capacity : Nat) (past : List (Request Payload)) :
    (agent.subscribed capacity past).Listens [] := by
  have sound : (Machine.run Bus.perform (.withCapacity capacity) past).Sound :=
    Bus.Sound.run capacity past
  have soundAfter := sound.subscribe Dispatch.standard.topics
  exact ⟨soundAfter.subscribe broadcastTopics, Nat.lt_succ_of_lt (Nat.lt_succ_self _),
    (Serves.newest sound Dispatch.standard.topics).subscribe soundAfter (Nat.lt_succ_self _)
      broadcastTopics⟩

/-- The agent after some activities. -/
def after (start : Agent) (activities : List Activity) : Agent :=
  Machine.run perform start activities

/-- The messages that the loop took, in that order. -/
def taken (start : Agent) (activities : List Activity) : List Payload :=
  Machine.log perform (fun agent activity => (agent.perform activity).2) start activities

/-- The messages that were published on a bound topic while the mailbox of the loop was subscribed
and had room, in that order. -/
def admitted (start : Agent) (activities : List Activity) : List Payload :=
  Machine.log perform admits start activities

theorem after_concat (start : Agent) (past : List Activity) (activity : Activity) :
    start.after (past ++ [activity]) = ((start.after past).perform activity).1 :=
  Machine.run_concat perform start past activity

theorem taken_append (start : Agent) (earlier later : List Activity) :
    start.taken (earlier ++ later) = start.taken earlier ++ (start.after earlier).taken later :=
  Machine.log_append perform _ start earlier later

theorem taken_concat (start : Agent) (past : List Activity) (activity : Activity) :
    start.taken (past ++ [activity]) =
      start.taken past ++ ((start.after past).perform activity).2 :=
  Machine.log_concat perform _ start past activity

theorem admitted_concat (start : Agent) (past : List Activity) (activity : Activity) :
    start.admitted (past ++ [activity]) =
      start.admitted past ++ (start.after past).admits activity :=
  Machine.log_concat perform _ start past activity

namespace Listens

variable {start : Agent} {waiting : List Payload}

/-- What the loop took, followed by what waits or was lost with the loop, is what waited at first
and what was admitted since. -/
theorem run (listens : start.Listens waiting) (activities : List Activity) :
    ∃ queue, (start.after activities).Listens queue ∧
      start.taken activities ++ queue = waiting ++ start.admitted activities := by
  induction activities using List.reverseRecOn with
  | nil => exact ⟨waiting, listens, (List.append_nil waiting).symm⟩
  | append_singleton past activity inductionHypothesis =>
    obtain ⟨queue, listensBefore, account⟩ := inductionHypothesis
    obtain ⟨next, listensAfter, moved⟩ := listensBefore.perform activity
    rw [after_concat, taken_concat, admitted_concat]
    refine ⟨next, listensAfter, ?_⟩
    rw [List.append_assoc, moved, ← List.append_assoc, account, List.append_assoc]

/-- An entry holds the last payload of its kind that the loop took, or what it held before. -/
theorem find?_run (listens : start.Listens waiting) (activities : List Activity) {kind : Kind}
    (cached : kind ≠ .collectorState) :
    (start.after activities).cache.find? kind =
      (((start.taken activities).filterMap (·.valueOf? kind)).getLast?).or
        (start.cache.find? kind) := by
  induction activities using List.reverseRecOn with
  | nil => rfl
  | append_singleton past activity inductionHypothesis =>
    obtain ⟨queue, listensBefore, -⟩ := listens.run past
    rw [after_concat, listensBefore.find?_perform activity cached, inductionHypothesis,
      taken_concat, List.filterMap_append, List.getLast?_append, Option.or_assoc]

end Listens

/-- The message that an activity publishes, if any. -/
def Activity.published : Activity → List Payload
  | .request asked => asked.published
  | _ => []

theorem admitted_sublist (start : Agent) (activities : List Activity) :
    (start.admitted activities).Sublist (activities.flatMap Activity.published) := by
  refine Machine.log_sublist_flatMap perform (fun agent activity => ?_) start activities
  cases activity with
  | request request =>
    cases request with
    | publish topic payload =>
      rw [admits]
      split
      · exact List.Sublist.refl _
      · exact List.nil_sublist _
    | _ => exact List.nil_sublist _
  | _ => exact List.nil_sublist _

theorem ne_collectorState_of_cached {kind : Kind} (cached : kind ∈ Kind.cached) :
    kind ≠ .collectorState :=
  Kind.mem_cached_iff.mp cached

/-- Taking nothing, or the state of a collector, changes no entry. -/
theorem Listens.cache_perform {agent : Agent} {queue : List Payload} (listens : agent.Listens queue)
    (activity : Activity)
    (idle : ∀ payload ∈ (agent.perform activity).2, payload.kind = .collectorState) :
    (agent.perform activity).1.cache = agent.cache := by
  cases activity with
  | request request =>
    rw [Agent.perform]
    split <;> rfl
  | step =>
    rcases listens.step_cases with waits | ends | ⟨-, payload, rest, -, taken⟩
    · rw [waits]
    · rw [ends]
    · rw [taken] at idle ⊢
      have state := idle payload (List.mem_singleton_self payload)
      exact (Dispatch.apply_standard payload agent.cache).trans (if_pos state)
  | cancel => rfl

/-- The cache follows the loop. An entry holds the last payload of its kind that the loop took,
whatever topic it came on. While the loop runs its mailbox is subscribed to the bound topics, and
what it took, followed by what is queued, is what was published on them while the mailbox had room;
what it took is a prefix of that even when it has ended. Nothing else changes an entry, so none goes
back to an earlier payload or becomes empty again. -/
theorem cache_follows_loop (agent : Agent) (capacity : Nat) (past : List (Request Payload))
    (activities : List Activity) :
    let start := agent.subscribed capacity past
    let now := start.after activities
    (∀ kind ∈ Kind.cached, now.cache.find? kind =
      (((start.taken activities).filterMap (·.valueOf? kind)).getLast?).or
        (agent.cache.find? kind)) ∧
    (now.cacheLoop.running = true →
      start.taken activities ++ now.bus.queued now.cacheLoop.mailbox =
        start.admitted activities) ∧
    start.taken activities <+: start.admitted activities ∧
    (start.admitted activities).Sublist (activities.flatMap Activity.published) ∧
    (∀ topic, now.cacheLoop.mailbox ∈ now.bus.registered topic ↔
      now.cacheLoop.running = true ∧ topic ∈ Dispatch.standard.topics) ∧
    (∀ request, (start.after (activities ++ [.request request])).cache = now.cache) ∧
    (∀ activity, (∀ payload ∈ (now.perform activity).2, payload.kind = .collectorState) →
      (start.after (activities ++ [activity])).cache = now.cache) ∧
    (∀ earlier later, activities = earlier ++ later → ∃ newly,
      start.taken activities = start.taken earlier ++ newly ∧
      ∀ kind ∈ Kind.cached, now.cache.find? kind =
        ((newly.filterMap (·.valueOf? kind)).getLast?).or
          ((start.after earlier).cache.find? kind)) := by
  intro start now
  have listens : start.Listens [] := listens_subscribed agent capacity past
  obtain ⟨queue, listensNow, account⟩ := listens.run activities
  rw [List.nil_append] at account
  refine ⟨fun kind cached => listens.find?_run activities (ne_collectorState_of_cached cached),
    fun running => ?_, ⟨queue, account⟩, start.admitted_sublist activities,
    listensNow.mem_registered_iff, fun request => ?_, fun activity idle => ?_, ?_⟩
  · rw [listensNow.queued running]
    exact account
  · rw [after_concat, perform]
    split <;> rfl
  · rw [after_concat]
    exact listensNow.cache_perform activity idle
  · rintro earlier later rfl
    obtain ⟨between, listensEarlier, -⟩ := listens.run earlier
    refine ⟨(start.after earlier).taken later, start.taken_append earlier later, ?_⟩
    intro kind cached
    have extended := listensEarlier.find?_run later (ne_collectorState_of_cached cached)
    rwa [show (start.after earlier).after later = start.after (earlier ++ later) from
      (Machine.run_append perform start earlier later).symm] at extended

/-- A list of disks published on the topic of the shares becomes the entry of the disks; the list of
shares that finds the mailbox full is lost. -/
theorem cache_of_misplaced_payload :
    let start := (Agent.assemble 1 default false .empty ⟨.epoch, 0⟩).subscribed 1 []
    let activities : List Activity := [.request (.publish "share_list_update" ⟨.disks, []⟩),
      .request (.publish "share_list_update" ⟨.shares, []⟩), .step]
    (start.after activities).cache.find? .disks = some [] ∧
      (start.after activities).cache.find? .shares = none := by
  intro start activities
  have taken : start.taken activities = [⟨.disks, []⟩] := by rfl
  obtain ⟨entries, -⟩ := cache_follows_loop (Agent.assemble 1 default false .empty ⟨.epoch, 0⟩) 1 []
    activities
  rw [show (Agent.assemble 1 default false .empty ⟨.epoch, 0⟩).subscribed 1 [] = start from rfl,
    taken] at entries
  exact ⟨entries .disks (by decide), entries .shares (by decide)⟩

end Agent

end ServerMonitor
