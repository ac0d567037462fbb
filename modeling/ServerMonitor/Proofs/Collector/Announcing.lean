/-
This file states what the published changes of collectors tell when calls run at
once. Every change is published once, but two changes of one collector may be
published in the other order, since a call gives the roster back before it
publishes. So it is the last change, not the last event, that agrees with the
roster. Where no call about a collector took its turn while the event of another
was still to be published, the events come in the order of the changes; and a
mailbox that was never full holds all of them in the order of their publication.
-/

import ServerMonitor.Proofs.Collector.Call
import ServerMonitor.Proofs.Collector.Tasks

namespace ServerMonitor.Console

open Collector

/-! ### Records of a run -/

/-- The changes of collectors, in the order in which the roster was changed. -/
def changes (console : Console) (turns : List Turn) : List CollectorStateEvent :=
  Machine.log perform (fun console turn => (console.perform turn).2.changed.toList) console turns

/-- The events in the order of their publication. -/
def published (console : Console) (turns : List Turn) : List CollectorStateEvent :=
  Machine.log perform (fun console turn => (console.perform turn).2.published.toList) console turns

/-- The payloads taken from a mailbox. -/
def received (mailbox : Nat) (console : Console) (turns : List Turn) : List Payload :=
  Machine.log perform
    (fun console turn => (taken mailbox turn (console.perform turn).2).toList) console turns

/-- The events published while a mailbox was full. -/
def missed (mailbox : Nat) (console : Console) (turns : List Turn) : List CollectorStateEvent :=
  Machine.log perform
    (fun console turn =>
      if console.agent.bus.acceptance mailbox = .queued then []
      else (console.perform turn).2.published.toList) console turns

/-- The events about one collector. -/
def about (name : String) (events : List CollectorStateEvent) : List CollectorStateEvent :=
  events.filter fun event => event.collector = name

/-- The changes of a collector that were made while an event about it was still to be published. -/
def overlaps (name : String) (console : Console) (turns : List Turn) : List CollectorStateEvent :=
  Machine.log perform
    (fun console turn =>
      if about name console.pending = [] then []
      else about name (console.perform turn).2.changed.toList) console turns

theorem changes_concat (start : Console) (past : List Turn) (turn : Turn) :
    start.changes (past ++ [turn]) =
      start.changes past ++ ((start.after past).perform turn).2.changed.toList :=
  Machine.log_concat perform _ start past turn

theorem published_concat (start : Console) (past : List Turn) (turn : Turn) :
    start.published (past ++ [turn]) =
      start.published past ++ ((start.after past).perform turn).2.published.toList :=
  Machine.log_concat perform _ start past turn

theorem about_append (name : String) (first second : List CollectorStateEvent) :
    about name (first ++ second) = about name first ++ about name second :=
  List.filter_append first second

/-! ### Changes -/

/-- Every change is published once, or is still to be. -/
theorem changes_perm (start : Console) (idle : start.pending = []) (turns : List Turn) :
    (start.changes turns).Perm (start.published turns ++ (start.after turns).pending) := by
  induction turns using List.reverseRecOn with
  | nil => exact idle ▸ .refl _
  | append_singleton past turn inductionHypothesis =>
    rw [changes_concat, published_concat, after_concat]
    refine (inductionHypothesis.append_right _).trans ?_
    rw [List.append_assoc, List.append_assoc]
    refine List.Perm.append_left _ (List.perm_append_comm.trans ?_)
    exact (start.after past).pending_perform turn

/-- The last change of a collector tells its condition. -/
theorem condition?_of_last_change (start : Console) (turns : List Turn) {name : String}
    {event : CollectorStateEvent}
    (last : (about name (start.changes turns)).getLast? = some event) :
    ∃ condition now, event = condition.event name now ∧
      (start.after turns).agent.roster.condition? name = some condition := by
  -- A turn that tells nothing, or of another collector, leaves the last change and the condition.
  induction turns using List.reverseRecOn with
  | nil => cases last
  | append_singleton past turn inductionHypothesis =>
    rw [changes_concat, about_append] at last
    rw [after_concat]
    have tells := (start.after past).tells_perform turn
    cases changed : ((start.after past).perform turn).2.changed with
    | none =>
      rw [changed] at tells last
      rw [tells name]
      exact inductionHypothesis (last.symm ▸ congrArg List.getLast? (List.append_nil _).symm)
    | some told =>
      rw [changed] at tells last
      obtain ⟨condition, now, same, others⟩ := tells
      rw [others]
      by_cases own : told.collector = name
      · rw [if_pos own]
        have told_eq : about name (some told).toList = [told] := by simp [about, own]
        rw [told_eq, List.getLast?_concat] at last
        exact ⟨condition, now, own ▸ Option.some.inj last ▸ same, rfl⟩
      · rw [if_neg own]
        have told_eq : about name (some told).toList = [] := by simp [about, own]
        rw [told_eq, List.append_nil] at last
        exact inductionHypothesis last

/-! ### The order of publication -/

/-- Lists of at most one element are equal if they are permutations of each other. -/
theorem eq_of_perm_of_length_le_one {Value : Type} {first second : List Value}
    (perm : first.Perm second) (short : first.length ≤ 1) : first = second := by
  match first, short with
  | [], _ => exact (List.nil_perm.mp perm).symm
  | [value], _ => exact (List.singleton_perm.mp perm)

/-- If nothing about a collector is still to be published when it is changed, what is still to be
published is published in the order of the changes. -/
theorem about_perform (console : Console) (turn : Turn) {name : String}
    (short : (about name console.pending).length ≤ 1)
    (apart : about name console.pending ≠ [] →
      about name (console.perform turn).2.changed.toList = []) :
    about name console.pending ++ about name (console.perform turn).2.changed.toList =
        about name (console.perform turn).2.published.toList ++
          about name (console.perform turn).1.pending ∧
      (about name (console.perform turn).1.pending).length ≤ 1 := by
  have perm : (about name console.pending ++
      about name (console.perform turn).2.changed.toList).Perm
      (about name (console.perform turn).2.published.toList ++
        about name (console.perform turn).1.pending) := by
    rw [← about_append, ← about_append]
    exact (List.perm_append_comm.trans (console.pending_perform turn)).filter _
  have one : (about name (console.perform turn).2.changed.toList).length ≤ 1 :=
    (List.length_filter_le _ _).trans Option.length_toList_le
  have total : (about name console.pending ++
      about name (console.perform turn).2.changed.toList).length ≤ 1 := by
    by_cases nothing : about name console.pending = []
    · rwa [nothing, List.nil_append]
    · rwa [apart nothing, List.append_nil]
  -- A permutation would say nothing of the order, but of one event there is only one.
  refine ⟨eq_of_perm_of_length_le_one perm total, ?_⟩
  rw [perm.length_eq, List.length_append] at total
  exact (Nat.le_add_left _ _).trans total

/-- While calls about a collector do not overlap, its changes are published in their order, and at
most the last one is still to be published. -/
theorem about_changes_of_apart (start : Console) (idle : start.pending = []) {name : String}
    (turns : List Turn) (apart : start.overlaps name turns = []) :
    about name (start.changes turns) =
        about name (start.published turns) ++ about name (start.after turns).pending ∧
      (about name (start.after turns).pending).length ≤ 1 := by
  induction turns using List.reverseRecOn with
  | nil =>
    have nothing : (start.after []).pending = [] := idle
    rw [nothing]
    exact ⟨rfl, Nat.zero_le 1⟩
  | append_singleton past turn inductionHypothesis =>
    rw [overlaps, Machine.log_concat, List.append_eq_nil_iff] at apart
    obtain ⟨order, short⟩ := inductionHypothesis apart.1
    obtain ⟨step, shortAfter⟩ := (start.after past).about_perform turn short fun some =>
      (if_neg some).symm.trans apart.2
    rw [changes_concat, published_concat, after_concat, about_append, about_append, order,
      List.append_assoc, step, List.append_assoc]
    exact ⟨rfl, shortAfter⟩

/-! ### Mailboxes -/

/-- What was taken from a mailbox that was never full and what is left in it are the published
events in their order. -/
theorem received_of_missed_eq_nil {start : Console} {mailbox : Nat} {queue : List Payload}
    (watches : start.Watches mailbox queue) (turns : List Turn)
    (kept : start.missed mailbox turns = []) :
    ∃ later, (start.after turns).Watches mailbox later ∧
      start.received mailbox turns ++ later =
        queue ++ (start.published turns).map announcement := by
  induction turns using List.reverseRecOn with
  | nil => exact ⟨queue, watches, (List.append_nil queue).symm⟩
  | append_singleton past turn inductionHypothesis =>
    rw [missed, Machine.log_concat, List.append_eq_nil_iff] at kept
    obtain ⟨between, watchesBetween, earlier⟩ := inductionHypothesis kept.1
    obtain ⟨later, watchesLater, step⟩ := watchesBetween.perform turn fun told => by
      by_contra full
      have untold := (if_neg full).symm.trans kept.2
      exact told (Option.toList_eq_nil_iff.mp untold)
    rw [after_concat, published_concat, received, Machine.log_concat]
    refine ⟨later, watchesLater, ?_⟩
    rw [List.append_assoc, List.map_append, ← List.append_assoc queue, ← earlier]
    rw [List.append_assoc (start.received mailbox past), ← step]
    rfl

/-! ### Calls that are all over -/

/-- Calls made to an agent whose bus was created with a capacity and used, and has a new mailbox for
changes of collectors. -/
def opened (agent : Agent) (capacity : Nat) (traffic : List (Bus.Request Payload))
    (switches : List Switch) : Console :=
  let bus := Machine.run Bus.perform (.withCapacity capacity) traffic
  ⟨{ agent with bus := (bus.subscribe [Agent.stateTopic.name]).1 }, switches.map .waiting⟩

/-- The mailbox of that agent. -/
def mailbox (capacity : Nat) (traffic : List (Bus.Request Payload)) : Nat :=
  (Machine.run Bus.perform (.withCapacity capacity) traffic : Bus Payload).nextId

theorem pending_opened (agent : Agent) (capacity : Nat) (traffic : List (Bus.Request Payload))
    (switches : List Switch) : (opened agent capacity traffic switches).pending = [] := by
  refine List.flatMap_eq_nil_iff.mpr fun call member => ?_
  obtain ⟨switch, -, rfl⟩ := List.mem_map.mp member
  rfl

theorem watches_opened (agent : Agent) (capacity : Nat) (traffic : List (Bus.Request Payload))
    (switches : List Switch) :
    (opened agent capacity traffic switches).Watches (mailbox capacity traffic) [] where
  sound := (Bus.Sound.run capacity traffic).subscribe _
  serves := Bus.Serves.newest (Bus.Sound.run capacity traffic) [Agent.stateTopic.name]

/-- Calls that enable and disable collectors are all over. Every change was published once, and the
last change of each collector tells what is reported of it. The events about a collector were
published in the order of its changes if no call changed it while the event of another was still to
be published. A mailbox that was never full held all events in the order of their publication. -/
theorem last_change_agrees (agent : Agent) (capacity : Nat) (traffic : List (Bus.Request Payload))
    (switches : List Switch) (turns : List Turn)
    (returned : ∀ call ∈ ((opened agent capacity traffic switches).after turns).calls,
      call.hasReturned = true) :
    let start := opened agent capacity traffic switches
    let final := (start.after turns).agent
    (start.published turns).Perm (start.changes turns) ∧
    (∀ name event, (about name (start.changes turns)).getLast? = some event →
      ∃ report, final.roster.status name = .ok report ∧ report.enabled = event.enabled ∧
        report.state = event.state ∧ report.interval = event.interval) ∧
    (∀ name, start.overlaps name turns = [] →
      about name (start.published turns) = about name (start.changes turns)) ∧
    (start.missed (mailbox capacity traffic) turns = [] →
      start.received (mailbox capacity traffic) turns ++
        final.bus.queued (mailbox capacity traffic) =
          (start.published turns).map announcement) := by
  intro start final
  have idle : start.pending = [] := pending_opened agent capacity traffic switches
  have nothing : (start.after turns).pending = [] := by
    refine List.flatMap_eq_nil_iff.mpr fun call member => ?_
    rw [Call.pending_of_hasReturned (returned call member)]
    rfl
  refine ⟨?_, fun name event last => ?_, fun name apart => ?_, fun kept => ?_⟩
  · have perm := start.changes_perm idle turns
    rw [nothing, List.append_nil] at perm
    exact perm.symm
  · obtain ⟨condition, now, rfl, held⟩ := start.condition?_of_last_change turns last
    obtain ⟨report, status, enabled, interval, state, -⟩ := Roster.status_of_condition held
    exact ⟨report, status, enabled, state, interval⟩
  · have order := (start.about_changes_of_apart idle turns apart).1
    rw [nothing] at order
    exact (order.trans (List.append_nil _)).symm
  · have watches := watches_opened agent capacity traffic switches
    obtain ⟨later, watchesLater, same⟩ := received_of_missed_eq_nil watches turns kept
    rw [Bus.queued_eq, watchesLater.serves.waiting]
    exact same

/-- An agent with one collector, which is disabled. -/
def agentWithDisabledCollector : Agent :=
  { Agent.assemble 1 default false .empty ⟨.epoch, 0⟩ with
    roster := Roster.after [.register "gpu" (Plan.ofList []) 0 false] }

/-- What is told of the collector of that agent while it runs. -/
def tellsRunning : CollectorStateEvent :=
  ⟨"collector_state_change", "gpu", true, .running, 10, .epoch⟩

/-- What is told of the collector of that agent once it was stopped. -/
def tellsStopped : CollectorStateEvent :=
  ⟨"collector_state_change", "gpu", false, .stopped, 10, .epoch⟩

/-- Two calls about one collector that do not overlap are announced in their order. -/
theorem received_of_calls_in_turn :
    let start := opened agentWithDisabledCollector 2 [] [⟨"gpu", true⟩, ⟨"gpu", false⟩]
    let turns : List Turn := [.call 0, .call 0, .call 1, .receive 1, .call 1]
    start.received 1 turns ++ (start.after turns).agent.bus.queued 1 =
      [announcement tellsRunning, announcement tellsStopped] := by
  intro start turns
  have returned : ∀ call ∈ (start.after turns).calls, call.hasReturned = true := by
    have calls : (start.after turns).calls = [.returned (.ok ()), .returned (.ok ())] := rfl
    rw [calls]
    simp [Call.hasReturned]
  obtain ⟨-, -, -, seen⟩ := last_change_agrees agentWithDisabledCollector 2 []
    [⟨"gpu", true⟩, ⟨"gpu", false⟩] turns returned
  exact seen rfl

/-- A call that enables a collector and one that disables it publish in the other order, and the
last event tells that the collector is running although it is stopped. A mailbox of one place that
is not read holds only the first event even of calls that do not overlap. -/
theorem last_event_disagrees :
    let switches : List Switch := [⟨"gpu", true⟩, ⟨"gpu", false⟩]
    let stopped (agent : Agent) : Prop := ∃ report, agent.roster.status "gpu" = .ok report ∧
      report.enabled = false ∧ report.state = .stopped
    let crossed : List Turn := [.call 0, .call 1, .call 1, .call 0]
    let inTurn : List Turn := [.call 0, .call 0, .call 1, .call 1]
    let wide := opened agentWithDisabledCollector 2 [] switches
    let narrow := opened agentWithDisabledCollector 1 [] switches
    ((wide.after crossed).calls = [.returned (.ok ()), .returned (.ok ())] ∧
      stopped (wide.after crossed).agent ∧
      wide.published crossed = [tellsStopped, tellsRunning]) ∧
    (narrow.after inTurn).calls = [.returned (.ok ()), .returned (.ok ())] ∧
      stopped (narrow.after inTurn).agent ∧
      (narrow.after inTurn).agent.bus.queued 1 = [announcement tellsRunning] := by
  intro switches stopped crossed inTurn wide narrow
  exact ⟨⟨rfl, ⟨_, rfl, rfl, rfl⟩, rfl⟩, rfl, ⟨_, rfl, rfl, rfl⟩, rfl⟩

end ServerMonitor.Console
