/-
This file takes the loop of the hub apart. A poll takes the oldest event unless
the hub was cancelled; the fan-out of the event scans the clients one after the
other, removes those that had no room and counts, each in a turn of its own; at
the end the registry is shut down before the queue is dropped. Broadcasts,
clients and the cancellation take their turns in between. Uninterrupted turns are
a step of the hub, and in which order a scan passes the clients makes no
difference.
-/

import ServerMonitor.Hub.Basic
import ServerMonitor.Proofs.Hub.Overlap

namespace ServerMonitor

open Registry (Request Reply Scan)

/-! ### Scans in parts -/

namespace Registry

/-- The scan of a fan-out as far as the clients go whose identities a test picks. -/
def scanOnly (registry : Registry) (event : Event) (picked : Nat → Bool) : Registry × Scan :=
  ({ registry with
      clients := registry.clients.map fun client =>
        if picked client.id then client.take registry.capacity event else client },
    { reached := registry.clients.countP fun client =>
        picked client.id && client.reach registry.capacity event.name = .reached
      slow := (registry.clients.filter fun client =>
        picked client.id && client.reach registry.capacity event.name = .slow).map (·.id) })

/-- What two parts of a scan found together. -/
def Scan.add (first second : Scan) : Scan :=
  ⟨first.reached + second.reached, first.slow ++ second.slow⟩

/-- Findings that differ at most in the order of the slow clients. -/
structure Scan.Similar (first second : Scan) : Prop where
  reached : first.reached = second.reached
  slow : first.slow.Perm second.slow

/-- More found in addition to similar findings. -/
theorem Scan.Similar.add {found base more all : Scan} (similar : found.Similar base)
    (together : (base.add more).Similar all) : (found.add more).Similar all where
  reached := (congrArg (· + more.reached) similar.reached).trans together.reached
  slow := (similar.slow.append_right more.slow).trans together.slow

theorem scanOnly_all (registry : Registry) (event : Event) :
    registry.scanOnly event (fun _ => true) = registry.scan event := by
  simp [scanOnly, scan]

/-- What two tests that exclude each other find apart is what they find together. -/
theorem filter_append_filter_perm {Entry : Type} {first second : Entry → Bool}
    (disjoint : ∀ entry, first entry = true → second entry = false) (entries : List Entry) :
    (entries.filter first ++ entries.filter second).Perm
      (entries.filter fun entry => first entry || second entry) := by
  induction entries with
  | nil => exact List.Perm.nil
  | cons entry rest inductionHypothesis =>
    simp only [List.filter_cons]
    cases here : first entry with
    | true => simpa [disjoint entry here] using inductionHypothesis
    | false =>
      cases second entry with
      | true => simpa using List.perm_middle.trans (inductionHypothesis.cons entry)
      | false => simpa using inductionHypothesis

/-- Clients that are passed in different parts of a scan do not matter to each other. -/
theorem scanOnly_scanOnly (registry : Registry) (event : Event) (first second : Nat → Bool)
    (disjoint : ∀ id, first id = true → second id = false) :
    let once := registry.scanOnly event first
    let twice := once.1.scanOnly event second
    let both := registry.scanOnly event fun id => first id || second id
    twice.1 = both.1 ∧ (once.2.add twice.2).Similar both.2 := by
  intro once twice both
  -- Whoever the second part picks was not touched by the first.
  have untouched (outcome : Reach) : (fun client : Client =>
      second client.id && decide (client.reach registry.capacity event.name = outcome)) ∘
        (fun client => if first client.id then client.take registry.capacity event else client) =
      fun client =>
        second client.id && decide (client.reach registry.capacity event.name = outcome) := by
    funext client
    cases picked : first client.id with
    | true => simp [picked, disjoint client.id picked]
    | false => simp [picked]
  have sameId : (fun client : Client => client.id) ∘
      (fun client => if first client.id then client.take registry.capacity event else client) =
      fun client => client.id := by
    funext client
    cases picked : first client.id <;> simp [picked]
  have sameCapacity : once.1.capacity = registry.capacity := rfl
  -- The two parts find together what the whole finds.
  have together (outcome : Reach) : (registry.clients.filter (fun client =>
        first client.id && decide (client.reach registry.capacity event.name = outcome)) ++
      registry.clients.filter fun client =>
        second client.id && decide (client.reach registry.capacity event.name = outcome)).Perm
      (registry.clients.filter fun client => (first client.id || second client.id) &&
        decide (client.reach registry.capacity event.name = outcome)) := by
    refine (filter_append_filter_perm (fun client found => ?_) _).trans ?_
    · rw [disjoint client.id (Bool.and_eq_true_iff.mp found).1, Bool.false_and]
    · simp only [Bool.and_or_distrib_right, List.Perm.refl]
  refine ⟨?_, ?_, ?_⟩
  · show ({ registry with clients := (registry.clients.map _).map _ } : Registry) = _
    rw [List.map_map]
    refine congrArg (fun clients => ({ registry with clients } : Registry)) ?_
    refine List.map_congr_left fun client _ => ?_
    cases picked : first client.id with
    | true => simp [once, scanOnly, picked, disjoint client.id picked]
    | false => simp [once, scanOnly, picked]
  · show registry.clients.countP _ + (registry.clients.map _).countP _ = registry.clients.countP _
    rw [List.countP_map, sameCapacity, untouched, List.countP_eq_length_filter,
      List.countP_eq_length_filter, List.countP_eq_length_filter, ← List.length_append]
    exact (together .reached).length_eq
  · show ((registry.clients.filter _).map _ ++ ((registry.clients.map _).filter _).map _).Perm
      ((registry.clients.filter _).map _)
    rw [List.filter_map, List.map_map, sameCapacity, untouched, sameId, ← List.map_append]
    exact (together .slow).map _

/-- Removal does not depend on the order in which the slow clients were found. -/
theorem evict_eq_of_perm (registry : Registry) {slow other : List Nat} (same : slow.Perm other) :
    registry.evict slow = registry.evict other := by
  have contains (id : Nat) : slow.contains id = other.contains id := by
    rw [Bool.eq_iff_iff, List.contains_iff_mem, List.contains_iff_mem]
    exact same.mem_iff
  simp only [evict, contains]

end Registry

/-! ### The loop -/

/-- Where the loop of a hub is. -/
inductive Stage
  /-- It looks at its token and its queue. -/
  | polling
  /-- It has taken an event off the queue. -/
  | holding (event : Event)
  /-- It scans the clients under the lock of the registry: it has passed some and found this. -/
  | scanning (event : Event) (passed : List Nat) (found : Scan)
  /-- The scan is over, the removals and the counting are not. -/
  | settling (progress : FanOut)
  /-- It has seen that it was cancelled or that nobody is left to hand over events. -/
  | leaving
  /-- It has shut the registry down. -/
  | closing
  | ended

/-- The event that the loop took off the queue and has not yet offered to all clients. -/
def Stage.inHand : Stage → List Event
  | holding event | scanning event _ _ => [event]
  | _ => []

/-- Whether something can be asked of the registry now. Only the loop fans out and shuts down, and
while it scans the clients, nobody is registered or unregistered. -/
def Stage.admits : Stage → Request → Bool
  | _, .fanOut _ | _, .shutdown => false
  | scanning _ _ _, .register | scanning _ _ _, .unregister _ => false
  | _, _ => true

/-- A hub and its loop. -/
structure HubLoop where
  hub : Hub
  stage : Stage
  /-- Whether someone is left who can hand over events. -/
  handles : Bool

namespace HubLoop

/-- The loop has just been started. -/
def start (clientCapacity broadcastCapacity : Nat) : HubLoop :=
  ⟨Hub.start clientCapacity broadcastCapacity, .polling, true⟩

inductive Turn
  /-- Someone hands over an event. -/
  | broadcast (event : Event)
  /-- The loop does what comes next. A scan passes all clients that it has not passed yet. -/
  | advance
  /-- A scan passes one client. -/
  | pass (id : Nat)
  /-- The registry is asked for something, by a client or who speaks for one. -/
  | attend (request : Request)
  /-- The token of the loop is cancelled. -/
  | cancel
  /-- Nobody is left who could hand over events. -/
  | abandon

/-- What is said to who takes a turn. -/
inductive Answer
  /-- Whether the event was taken. -/
  | handedOver (taken : Bool)
  | answered (reply : Reply)
  /-- It has to be asked later. -/
  | waits
  | done

/-- What the loop does next. -/
def advance (loop : HubLoop) : HubLoop :=
  match loop.stage with
  | .polling =>
    if loop.hub.cancelled then { loop with stage := .leaving }
    else
      match loop.hub.queue with
      | event :: rest => { loop with hub.queue := rest, stage := .holding event }
      | [] => if loop.handles then loop else { loop with stage := .leaving }
  | .holding event => { loop with stage := .scanning event [] ⟨0, []⟩ }
  | .scanning event passed found =>
    let (registry, more) := loop.hub.registry.scanOnly event (!passed.contains ·)
    { loop with hub.registry := registry, stage := .settling (.scanned (found.add more)) }
  | .settling (.scanned found) =>
    let (registry, evicted) := loop.hub.registry.evict found.slow
    { loop with hub.registry := registry, stage := .settling (.removed found.reached evicted) }
  | .settling (.removed reached evicted) =>
    { loop with
      hub.registry := loop.hub.registry.count 0 evicted, stage := .settling (.recorded reached) }
  | .settling (.recorded reached) =>
    { loop with hub.registry := loop.hub.registry.count reached 0, stage := .polling }
  | .leaving => { loop with hub.registry := loop.hub.registry.shutdown, stage := .closing }
  | .closing => { loop with hub.queue := [], hub.running := false, stage := .ended }
  | .ended => loop

/-- A scan passes a client, unless it already has. -/
def pass (loop : HubLoop) (id : Nat) : HubLoop :=
  match loop.stage with
  | .scanning event passed found =>
    if passed.contains id then loop
    else
      let (registry, more) := loop.hub.registry.scanOnly event fun other => other = id
      { loop with
        hub.registry := registry, stage := .scanning event (passed ++ [id]) (found.add more) }
  | _ => loop

/-- What a turn does, and what it answers. -/
def perform : Machine HubLoop Turn Answer
  | loop, .broadcast event =>
    if loop.handles then
      ({ loop with hub := (loop.hub.broadcast event).1 },
        .handedOver (loop.hub.broadcast event).2)
    else (loop, .done)
  | loop, .advance => (loop.advance, .done)
  | loop, .pass id => (loop.pass id, .done)
  | loop, .attend request =>
    if loop.stage.admits request then
      ({ loop with hub.registry := (loop.hub.registry.perform request).1 },
        .answered (loop.hub.registry.perform request).2)
    else (loop, .waits)
  | loop, .cancel => ({ loop with hub := loop.hub.cancel }, .done)
  | loop, .abandon => ({ loop with handles := false }, .done)

/-! ### Broadcasts and polls -/

/-- An event is taken while the loop goes on and there is room. Without a handle nothing is handed
over. -/
theorem perform_broadcast_cases (loop : HubLoop) (event : Event) :
    (loop.handles = true ∧ (loop.hub.running && loop.hub.queue.length < loop.hub.capacity) = true ∧
        loop.perform (.broadcast event) =
          ({ loop with hub.queue := loop.hub.queue ++ [event] }, .handedOver true)) ∨
      (loop.handles = true ∧
        (loop.hub.running && loop.hub.queue.length < loop.hub.capacity) = false ∧
        loop.perform (.broadcast event) = (loop, .handedOver false)) ∨
      loop.handles = false ∧ loop.perform (.broadcast event) = (loop, .done) := by
  obtain ⟨hub, stage, handles⟩ := loop
  rw [perform, Hub.broadcast]
  cases handles with
  | false => exact .inr (.inr ⟨rfl, rfl⟩)
  | true =>
    dsimp only
    cases hub.running && hub.queue.length < hub.capacity with
    | true => exact .inl ⟨rfl, rfl, rfl⟩
    | false => exact .inr (.inl ⟨rfl, rfl, rfl⟩)

/-- A poll ends the loop, or takes the oldest event of a hub that was not cancelled, or waits. -/
theorem poll_cases (loop : HubLoop) (polls : loop.stage = .polling) :
    loop.advance = { loop with stage := .leaving } ∨
      (loop.hub.cancelled = false ∧ ∃ event rest, loop.hub.queue = event :: rest ∧
        loop.advance = { loop with hub.queue := rest, stage := .holding event }) ∨
      loop.hub.cancelled = false ∧ loop.advance = loop := by
  rw [advance, polls]
  dsimp only
  cases loop.hub.cancelled with
  | true => exact .inl rfl
  | false =>
    cases queue : loop.hub.queue with
    | cons event rest => exact .inr (.inl ⟨rfl, event, rest, rfl, rfl⟩)
    | nil =>
      cases loop.handles with
      | true => exact .inr (.inr ⟨rfl, rfl⟩)
      | false => exact .inl rfl

/-- To pass a client changes nothing, or the registry under a scan that goes on. -/
theorem pass_cases (loop : HubLoop) (id : Nat) :
    loop.pass id = loop ∨ ∃ event passed found, loop.stage = .scanning event passed found ∧
      ∃ registry passedAfter foundAfter, loop.pass id =
        { loop with
          hub.registry := registry, stage := .scanning event passedAfter foundAfter } := by
  unfold pass
  match loop.stage with
  | .scanning event passed found =>
    dsimp only
    cases passed.contains id with
    | true => exact .inl rfl
    | false => exact .inr ⟨event, passed, found, rfl, _, _, _, rfl⟩
  | .polling | .holding _ | .settling _ | .leaving | .closing | .ended => exact .inl rfl

/-! ### Uninterrupted turns -/

/-- A scan that has just begun and then passes clients in some order has made that part of the
scan of the registry. -/
theorem run_pass (loop : HubLoop) {event : Event}
    (begins : loop.stage = .scanning event [] ⟨0, []⟩) (order : List Nat) :
    ∃ passed found,
      Machine.run perform loop (order.map .pass) =
        { loop with
          hub.registry := (loop.hub.registry.scanOnly event passed.contains).1
          stage := .scanning event passed found } ∧
      found.Similar (loop.hub.registry.scanOnly event passed.contains).2 := by
  induction order using List.reverseRecOn with
  | nil =>
    refine ⟨[], ⟨0, []⟩, ?_, ?_⟩
    · show loop = _
      rw [← begins]
      simp [Registry.scanOnly]
    · exact ⟨by simp [Registry.scanOnly], by simp [Registry.scanOnly]⟩
  | append_singleton earlier id inductionHypothesis =>
    obtain ⟨passed, found, reached, similar⟩ := inductionHypothesis
    rw [List.map_append, List.map_singleton, Machine.run_concat, reached]
    by_cases again : id ∈ passed
    · refine ⟨passed, found, ?_, similar⟩
      simp [perform, pass, again]
    · obtain ⟨registry, together⟩ := loop.hub.registry.scanOnly_scanOnly event
        passed.contains (fun other => other = id)
        (by grind)
      have both : (fun other => passed.contains other || decide (other = id)) =
          (passed ++ [id]).contains := by
        funext other
        simp
      rw [both] at registry together
      refine ⟨passed ++ [id], _, ?_, similar.add together⟩
      simp [perform, pass, again, registry]

/-- What is left to do after a scan that found the slow clients in some order. -/
theorem run_settle (loop : HubLoop) {event : Event} {found : Scan}
    (similar : found.Similar (loop.hub.registry.scan event).2) :
    Machine.run perform
        { loop with
          hub.registry := (loop.hub.registry.scan event).1, stage := .settling (.scanned found) }
        (List.replicate 3 .advance) =
      { loop with hub.registry := (loop.hub.registry.fanOut event).1, stage := .polling } := by
  simp [Machine.run, perform, advance, Registry.fanOut, Registry.count, similar.reached,
    Registry.evict_eq_of_perm _ similar.slow]

/-- A fan-out that is not interrupted does what the registry does, in whatever order it passes the
clients. -/
theorem run_fanOut (loop : HubLoop) {event : Event} (holds : loop.stage = .holding event)
    (order : List Nat) :
    Machine.run perform loop
        (([.advance] ++ order.map .pass) ++ [.advance] ++ List.replicate 3 .advance) =
      { loop with hub.registry := (loop.hub.registry.fanOut event).1, stage := .polling } := by
  obtain ⟨passed, found, swept, similar⟩ :=
    run_pass { loop with stage := .scanning event [] ⟨0, []⟩ } rfl order
  obtain ⟨registry, together⟩ := loop.hub.registry.scanOnly_scanOnly event
    passed.contains (!passed.contains ·) fun id => congrArg not
  simp only [Bool.or_not_self, Registry.scanOnly_all] at registry together
  have begun : Machine.run perform loop [.advance] =
      { loop with stage := .scanning event [] ⟨0, []⟩ } := by
    rw [Machine.run, List.foldl_cons, List.foldl_nil, perform, advance, holds]
  rw [Machine.run_append, Machine.run_concat, Machine.run_append, begun, swept, perform, advance]
  dsimp only
  rw [registry]
  exact run_settle loop (similar.add together)

/-- Turns of the loop that are not interrupted are a step of the hub. -/
theorem run_step (loop : HubLoop) (polls : loop.stage = .polling)
    (running : loop.hub.running = true) :
    ∃ count, Machine.run perform loop (List.replicate count .advance) =
      { loop with
        hub := loop.hub.step
        stage := if loop.hub.cancelled then .ended else .polling } := by
  cases cancelled : loop.hub.cancelled with
  | true =>
    refine ⟨3, ?_⟩
    simp [Machine.run, perform, advance, polls, cancelled, Hub.step, running]
  | false =>
    cases queue : loop.hub.queue with
    | nil =>
      refine ⟨0, ?_⟩
      simp [Machine.run, Hub.step, running, cancelled, queue, ← polls]
    | cons event rest =>
      refine ⟨6, ?_⟩
      have taken : Machine.run perform loop [.advance] =
          { loop with hub.queue := rest, stage := .holding event } := by
        simp [Machine.run, perform, advance, polls, cancelled, queue]
      show Machine.run perform loop ([.advance] ++ List.replicate 5 .advance) = _
      rw [Machine.run_append, taken]
      refine (run_fanOut _ rfl []).trans ?_
      simp [Hub.step, running, cancelled, queue]

/-! ### What a turn does to the clients -/

/-- What a turn does to each client. -/
def change (loop : HubLoop) : Turn → Client → Client
  | .attend request =>
    if loop.stage.admits request then fun client => client.after loop.hub.registry.capacity request
    else id
  | .pass passing =>
    match loop.stage with
    | .scanning event passed _ =>
      if passed.contains passing then id
      else fun client =>
        if client.id = passing then client.take loop.hub.registry.capacity event else client
    | _ => id
  | .advance =>
    match loop.stage with
    | .scanning event passed _ => fun client =>
      if passed.contains client.id then client else client.take loop.hub.registry.capacity event
    | .settling (.scanned found) => fun client =>
      if client.isRegistered && found.slow.contains client.id then
        { client with standing := .evicted }
      else client
    | .leaving => fun client => client.removed .cleared
    | _ => id
  | _ => id

/-- The client that a turn adds. -/
def joining (loop : HubLoop) : Turn → List Client
  | .attend request =>
    if loop.stage.admits request then loop.hub.registry.joining request else []
  | _ => []

theorem registry_broadcast (loop : HubLoop) (event : Event) :
    (loop.perform (.broadcast event)).1.hub.registry = loop.hub.registry := by
  rcases loop.perform_broadcast_cases event with ⟨-, -, taken⟩ | ⟨-, -, refused⟩ | ⟨-, nobody⟩
  · rw [taken]
  · rw [refused]
  · rw [nobody]

theorem registry_poll {loop : HubLoop} (polls : loop.stage = .polling) :
    loop.advance.hub.registry = loop.hub.registry := by
  rcases loop.poll_cases polls with leaves | ⟨-, event, rest, -, takes⟩ | ⟨-, stays⟩
  · rw [leaves]
  · rw [takes]
  · rw [stays]

theorem clients_perform {loop : HubLoop} (sound : loop.hub.registry.Sound) (turn : Turn) :
    (loop.perform turn).1.hub.registry.clients =
      loop.hub.registry.clients.map (loop.change turn) ++ loop.joining turn := by
  cases turn with
  | attend request =>
    rw [perform, change, joining]
    cases loop.stage.admits request with
    | true => exact sound.clients_perform request
    | false => simp
  | pass passing =>
    rw [perform, pass, change]
    cases loop.stage with
    | scanning event passed found =>
      dsimp only
      cases passed.contains passing <;> simp [Registry.scanOnly, joining]
    | _ => simp [joining]
  | advance =>
    rw [perform, change, show loop.joining .advance = [] from rfl, List.append_nil]
    match stage : loop.stage with
    | .polling => simp [registry_poll stage]
    | .scanning event passed found => simp [advance, stage, Registry.scanOnly]
    | .settling (.scanned found) => simp [advance, stage, Registry.evict]
    | .leaving => simp [advance, stage, Registry.shutdown, Client.removed]
    | .holding _ | .settling (.removed _ _) | .settling (.recorded _) | .closing | .ended =>
      simp [advance, stage, Registry.count]
  | broadcast event => simp [registry_broadcast, change, joining]
  | cancel | abandon => exact (List.map_id _).symm.trans (List.append_nil _).symm

/-- A turn leaves a client alone, does what was asked of the registry, offers it the event in hand
or removes it. -/
theorem change_cases (loop : HubLoop) (turn : Turn) (client : Client) :
    loop.change turn client = client ∨
      (∃ request, loop.stage.admits request = true ∧
        loop.change turn client = client.after loop.hub.registry.capacity request) ∨
      (∃ event ∈ loop.stage.inHand,
        loop.change turn client = client.take loop.hub.registry.capacity event) ∨
      ∃ standing, standing ≠ .registered ∧ loop.change turn client = client.removed standing := by
  cases turn with
  | attend request =>
    rw [change]
    cases admitted : loop.stage.admits request with
    | true => exact .inr (.inl ⟨request, admitted, rfl⟩)
    | false => exact .inl rfl
  | pass passing =>
    rw [change]
    cases loop.stage with
    | scanning event passed found =>
      dsimp only
      cases passed.contains passing with
      | true => exact .inl rfl
      | false =>
        rw [if_neg Bool.false_ne_true]
        by_cases own : client.id = passing
        · exact .inr (.inr (.inl ⟨event, List.mem_singleton_self event, if_pos own⟩))
        · exact .inl (if_neg own)
    | _ => exact .inl rfl
  | advance =>
    rw [change]
    match loop.stage with
    | .scanning event passed found =>
      dsimp only
      cases passed.contains client.id with
      | true => exact .inl rfl
      | false => exact .inr (.inr (.inl ⟨event, List.mem_singleton_self event, rfl⟩))
    | .settling (.scanned found) =>
      dsimp only
      cases slow : found.slow.contains client.id with
      | true => exact .inr (.inr (.inr ⟨.evicted, by decide, by simp [Client.removed]⟩))
      | false => exact .inl (by simp)
    | .leaving => exact .inr (.inr (.inr ⟨.cleared, by decide, rfl⟩))
    | .polling | .holding _ | .settling (.removed _ _) | .settling (.recorded _) | .closing
    | .ended => exact .inl rfl
  | broadcast event | cancel | abandon => exact .inl rfl

theorem change_id (loop : HubLoop) (turn : Turn) (client : Client) :
    (loop.change turn client).id = client.id := by
  rcases loop.change_cases turn client with same | ⟨request, -, asked⟩ | ⟨event, -, taken⟩ |
    ⟨standing, -, removed⟩
  · rw [same]
  · rw [asked, Client.after_id]
  · rw [taken, Client.take_id]
  · rw [removed, Client.removed_id]

theorem nextId_perform (loop : HubLoop) (turn : Turn) :
    (loop.perform turn).1.hub.registry.nextId =
      loop.hub.registry.nextId + (loop.joining turn).length := by
  cases turn with
  | attend request =>
    rw [perform, joining]
    cases loop.stage.admits request with
    | true => exact loop.hub.registry.nextId_perform request
    | false => rfl
  | pass passing =>
    rw [perform, pass]
    cases loop.stage with
    | scanning event passed found =>
      dsimp only
      cases passed.contains passing <;> rfl
    | _ => rfl
  | advance =>
    rw [perform]
    match stage : loop.stage with
    | .polling => exact congrArg Registry.nextId (registry_poll stage)
    | .holding _ | .scanning _ _ _ | .settling (.scanned _) | .settling (.removed _ _)
    | .settling (.recorded _) | .leaving | .closing | .ended =>
      rw [advance, stage]
      rfl
  | broadcast event => exact congrArg Registry.nextId (loop.registry_broadcast event)
  | cancel | abandon => rfl

theorem sound_perform {loop : HubLoop} (sound : loop.hub.registry.Sound) (turn : Turn) :
    (loop.perform turn).1.hub.registry.Sound := by
  have numbered : (loop.joining turn).map (·.id) =
      List.range' loop.hub.registry.nextId (loop.joining turn).length := by
    cases turn with
    | attend request =>
      rw [joining]
      split
      · exact loop.hub.registry.map_id_joining request
      · rfl
    | _ => rfl
  exact sound.of_clients (loop.change_id turn) numbered (clients_perform sound turn)
    (loop.nextId_perform turn)

/-! ### Runs -/

section Runs

variable (clientCapacity broadcastCapacity : Nat)

/-- The hub and its loop after some turns. -/
def after (turns : List Turn) : HubLoop :=
  Machine.run perform (start clientCapacity broadcastCapacity) turns

variable (turns : List Turn)

theorem after_concat (turn : Turn) :
    after clientCapacity broadcastCapacity (turns ++ [turn]) =
      ((after clientCapacity broadcastCapacity turns).perform turn).1 :=
  Machine.run_concat perform _ turns turn

theorem after_append (future : List Turn) :
    after clientCapacity broadcastCapacity (turns ++ future) =
      Machine.run perform (after clientCapacity broadcastCapacity turns) future :=
  Machine.run_append perform _ turns future

end Runs

end HubLoop

end ServerMonitor
