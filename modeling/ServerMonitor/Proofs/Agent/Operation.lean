/-
This file states what becomes of the built-in collector of a running agent. All
that happens until the agent ends asks something of the roster or nothing, so the
roster goes through a run of its own, which begins with the registrations at the
start. The built-in collector is registered first: another one of its name takes its
place, and an interval of zero leaves it waiting to be enabled. Apart from that it
runs, and no call switches it off.
-/

import ServerMonitor.Proofs.Agent.Relay
import ServerMonitor.Proofs.Collector.Disabling
import ServerMonitor.Proofs.Collector.Required
import ServerMonitor.Proofs.Settings.Serving

namespace ServerMonitor.Agent

open Collector

/-! ### Operations -/

/-- What happens in an agent after its start. -/
inductive Operation
  | enable (name : String)
  | disable (name : String)
  | changeInterval (name : String) (seconds : UInt64)
  /-- The task of a collector takes a step, if it can take one. -/
  | collect (task : Nat)
  /-- The timers' clock moves on. -/
  | elapse (milliseconds : Nat)
  /-- Something that has nothing to do with the collectors, or the end of them all. -/
  | act (action : Action)

/-- The agent after a call; a refused one leaves it as it is. -/
def settle (agent : Agent) : Except Refusal Agent → Agent × Except Refusal Unit
  | .ok next => (next, .ok ())
  | .error refusal => (agent, .error refusal)

def operate : Machine Agent Operation (Except Refusal Unit)
  | agent, .enable name => agent.settle (agent.enable name)
  | agent, .disable name => agent.settle (agent.disable name)
  | agent, .changeInterval name seconds => agent.settle (agent.changeInterval name seconds)
  | agent, .collect task => ((agent.stepCollector? task).getD agent, .ok ())
  | agent, .elapse milliseconds => ({ agent with time := agent.time + milliseconds }, .ok ())
  | agent, .act action => ((agent.act action).1, .ok ())

/-- What an operation asks of the roster. -/
def inquiry? (agent : Agent) : Operation → Option Roster.Request
  | .enable name => some (.enable name agent.time agent.clock.instant)
  | .disable name => some (.disable name agent.clock.instant)
  | .changeInterval name seconds => some (.changeInterval name seconds agent.time)
  | .collect task => some (.step task agent.bus agent.time agent.clock.instant)
  | .elapse _ => none
  | .act .cancel => some .shutdown
  | .act _ => none

/-- A call that is refused changes nothing. -/
theorem settle_of {agent : Agent} {Answer : Type} {outcome : Except Refusal Answer}
    {next : Answer → Agent} (property : Agent → Prop) (refused : property agent)
    (granted : ∀ answer, property (next answer)) :
    property (agent.settle (outcome.map next)).1 := by
  cases outcome with
  | error refusal => exact refused
  | ok answer => exact granted answer

theorem roster_announceState (agent : Agent) (change : Option CollectorStateEvent) :
    (agent.announceState change).roster = agent.roster := by
  cases change <;> rfl

theorem roster_act (agent : Agent) (action : Action) :
    (agent.act action).1.roster =
      (agent.inquiry? (.act action)).elim agent.roster fun request =>
        (agent.roster.perform request).1 := by
  cases action with
  | ask request => rw [act]; split <;> rfl
  | feed feeder =>
    cases feeder with
    | cache => rw [act_feed_cache]; rfl
    | broadcast => rw [act_feed_broadcast]; rfl
  | fanOut => rw [act_fanOut]; rfl
  | attend request => rw [act]; split <;> rfl
  | tick clock | cancel | cancelHub => rfl

/-- An operation changes the roster by what it asks of it. -/
theorem roster_operate (agent : Agent) (operation : Operation) :
    (agent.operate operation).1.roster =
      (agent.inquiry? operation).elim agent.roster fun request =>
        (agent.roster.perform request).1 := by
  cases operation with
  | enable name =>
    show (agent.settle (agent.enable name)).1.roster = (agent.roster.perform (.enable name _ _)).1
    rw [enable, Roster.perform]
    cases agent.roster.enable name agent.time agent.clock.instant with
    | error refusal => rfl
    | ok answer => exact roster_announceState _ answer.2
  | disable name =>
    show (agent.settle (agent.disable name)).1.roster = (agent.roster.perform (.disable name _)).1
    rw [disable, Roster.perform]
    cases agent.roster.disable name agent.clock.instant with
    | error refusal => rfl
    | ok answer => exact roster_announceState _ answer.2
  | changeInterval name seconds =>
    show (agent.settle (agent.changeInterval name seconds)).1.roster =
      (agent.roster.perform (.changeInterval name seconds _)).1
    rw [changeInterval, Roster.perform]
    cases agent.roster.changeInterval name seconds agent.time <;> rfl
  | collect task =>
    show ((agent.stepCollector? task).getD agent).roster = (agent.roster.perform (.step task ..)).1
    rw [stepCollector?, Roster.perform]
    cases agent.roster.stepTask? agent.bus task agent.time agent.clock.instant <;> rfl
  | elapse milliseconds => rfl
  | act action => exact agent.roster_act action

/-! ### Inquiries -/

/-- What a run asks of the roster, in that order. -/
def inquiries (agent : Agent) (operations : List Operation) : List Roster.Request :=
  Machine.log operate (fun agent operation => (agent.inquiry? operation).toList) agent operations

/-- The roster of an agent goes through a run of its own. -/
theorem roster_run (agent : Agent) (operations : List Operation) :
    (Machine.run operate agent operations).roster =
      Machine.run Roster.perform agent.roster (agent.inquiries operations) :=
  Machine.run_within operate Roster.perform (·.roster) inquiry? roster_operate agent operations

/-- No collector is registered, and not all are stopped, while the agent runs. -/
theorem inquiry?_spares {agent : Agent} {operation : Operation} {request : Roster.Request}
    (asks : agent.inquiry? operation = some request) :
    (∀ name, request.replaces name = false) ∧ request ≠ .stopAll ∧
      (request = .shutdown → operation = .act .cancel) := by
  cases operation with
  | enable name | disable name | changeInterval name seconds | collect task =>
    cases asks
    exact ⟨fun _ => rfl, nofun, nofun⟩
  | elapse milliseconds => cases asks
  | act action =>
    cases action with
    | cancel =>
      cases asks
      exact ⟨fun _ => rfl, nofun, fun _ => rfl⟩
    | _ => cases asks

theorem spared_of_mem_inquiries {agent : Agent} {operations : List Operation}
    {request : Roster.Request} (asked : request ∈ agent.inquiries operations) :
    (∀ name, request.replaces name = false) ∧ request ≠ .stopAll ∧
      (request = .shutdown → .act .cancel ∈ operations) := by
  obtain ⟨past, operation, future, rfl, noted⟩ := Machine.exists_of_mem_log operate asked
  obtain ⟨kept, goes, ends⟩ := inquiry?_spares (Option.mem_toList.mp noted)
  refine ⟨kept, goes, fun same => ?_⟩
  rw [ends same]
  exact List.mem_append_right _ List.mem_cons_self

/-- A collector is asked to be enabled if one of the calls enables it. -/
theorem any_inquiries (agent : Agent) (operations : List Operation) (name : String) :
    (agent.inquiries operations).any (Roster.Request.enables name) = true ↔
      .enable name ∈ operations := by
  have each (agent : Agent) (operation : Operation) :
      (agent.inquiry? operation).toList.any (Roster.Request.enables name) = true ↔
        .enable name = operation := by
    cases operation with
    | enable other =>
      simp [inquiry?, Roster.Request.enables, eq_comm]
    | disable other | changeInterval other seconds | collect task | elapse milliseconds =>
      simp [inquiry?, Roster.Request.enables]
    | act action => cases action <;> simp [inquiry?, Roster.Request.enables]
  induction operations generalizing agent with
  | nil => exact iff_of_false Bool.false_ne_true List.not_mem_nil
  | cons operation rest inductionHypothesis =>
    rw [inquiries, Machine.log, List.any_append, Bool.or_eq_true, each, List.mem_cons]
    exact or_congr_right (inductionHypothesis _)

/-! ### The start -/

section

variable (settings : Settings)

/-- How the start asks for a collector to be registered. -/
def enrolment (required : Bool) (collector : String × Plan) : Roster.Request :=
  .register collector.1 collector.2 (settings.interval collector.1) required

/-- What the start asks of the roster. -/
def setup (measured : HostInfo) (collectors : List (String × Plan)) : List Roster.Request :=
  enrolment settings true (hostCollector, hostPlan measured) ::
    (collectors.map (enrolment settings false) ++ [.startAll 0])

theorem roster_registerBy_foldl (agent : Agent) (collectors : List (String × Plan)) :
    (collectors.foldl
      (fun agent collector => registerBy settings agent collector.1 collector.2 false)
      agent).roster =
        Machine.run Roster.perform agent.roster (collectors.map (enrolment settings false)) := by
  induction collectors generalizing agent with
  | nil => rfl
  | cons collector rest inductionHypothesis => exact inductionHypothesis _

theorem roster_start (cache : Cache) (clock : Clock) (measured : HostInfo)
    (collectors : List (String × Plan)) :
    (start settings cache clock (some measured) collectors).roster =
      Roster.after (setup settings measured collectors) := by
  let builtIn := registerBy settings ((assemble settings.busBuffer.toNat settings.stream.rules
    settings.crossOrigin cache clock).subscribe) hostCollector (hostPlan measured) true
  obtain ⟨roster, registered⟩ := registerBy_foldl_frame settings builtIn collectors
  have enrolled := roster_registerBy_foldl settings builtIn collectors
  rw [registered] at enrolled
  rw [Roster.after, setup, ← List.cons_append, Machine.run_concat]
  show (startCollectors (collectors.foldl _ builtIn)).1.roster = (Roster.startAll _ 0).1
  rw [registered]
  exact congrArg (fun roster => (Roster.startAll roster 0).1) enrolled

/-! ### The built-in collector -/

/-- To register other collectors leaves the condition of a collector as it is. -/
theorem foldl_enrolments (name : String) (condition : Condition)
    (collectors : List (String × Plan)) :
    (collectors.map (enrolment settings false)).foldl (Condition.after name) condition =
      condition := by
  induction collectors with
  | nil => rfl
  | cons collector rest inductionHypothesis => exact inductionHypothesis

/-- A collector that is registered at the start and not replaced there: its name stands for it from
then on, and its condition is what the calls have made of it. -/
theorem entry_of_last (before : List Roster.Request) {name : String} (plan : Plan) (required : Bool)
    {rest : List (String × Plan)} (others : ∀ collector ∈ rest, collector.1 ≠ name)
    {requests asked : List Roster.Request}
    (kept : ∀ request ∈ asked, request.replaces name = false)
    (all : requests = before ++ enrolment settings required (name, plan) ::
      (rest.map (enrolment settings false) ++ .startAll 0 :: asked)) :
    ∃ entry, Roster.entry? (Roster.after requests) name = some entry ∧
      (Roster.after requests).registered[entry.registration]? = some (name, plan) ∧
      entry.condition = asked.foldl (Condition.after name)
        ((Condition.fresh (settings.interval name) required).after name (.startAll 0)) := by
  have last : ∀ request ∈ rest.map (enrolment settings false) ++ .startAll 0 :: asked,
      request.replaces name = false := by
    intro request member
    rcases List.mem_append.mp member with enrolled | later
    · obtain ⟨collector, listed, rfl⟩ := List.mem_map.mp enrolled
      exact decide_eq_false (others collector listed)
    · rcases List.mem_cons.mp later with rfl | calls
      · rfl
      · exact kept request calls
  have condition :=
    Roster.condition?_of_last before name plan (settings.interval name) required last
  rw [List.foldl_append, foldl_enrolments, List.foldl_cons] at condition
  rw [all]
  obtain ⟨entry, found, same⟩ := Option.map_eq_some_iff.mp condition
  exact ⟨entry, found, Roster.registered_of_last before name plan _ required last found, same⟩

theorem disable_of_required {agent : Agent} {name : String} {entry : Entry}
    (found : agent.roster.entry? name = some entry) (required : entry.required = true) :
    agent.operate (.disable name) = (agent, .error (.required name)) := by
  rw [operate, disable, Roster.disable, found]
  simp [required, settle, Except.map]

theorem disable_of_optional {agent : Agent} {name : String} {entry : Entry}
    (found : agent.roster.entry? name = some entry) (optional : entry.required = false) :
    (agent.operate (.disable name)).2 = .ok () ∧
      ∃ report, (agent.operate (.disable name)).1.roster.status name = .ok report ∧
        report.state ≠ .running := by
  have held : agent.roster.condition? name = some entry.condition := by
    rw [Roster.condition?, found]
    rfl
  constructor
  · rw [operate, disable, Roster.disable, found]
    by_cases idle : entry.state ≠ .running <;> simp [optional, idle, settle, Except.map]
  · have disabled : (agent.operate (.disable name)).1.roster.condition? name =
        some entry.condition.disable := by
      rw [roster_operate]
      refine (agent.roster.condition?_disable name agent.clock.instant name).trans ?_
      rw [held]
      exact congrArg some (if_pos rfl)
    obtain ⟨report, status, -, -, state, -⟩ := Roster.status_of_condition disabled
    exact ⟨report, status, state ▸ Condition.state_disable_ne_running optional⟩

/-- The roster of an agent is what the start and the calls since have asked for. -/
theorem roster_run_start (cache : Cache) (clock : Clock) (measured : HostInfo)
    (collectors : List (String × Plan)) (operations : List Operation) :
    let agent := start settings cache clock (some measured) collectors
    (Machine.run operate agent operations).roster =
      Roster.after (setup settings measured collectors ++ agent.inquiries operations) := by
  intro agent
  rw [roster_run, roster_start, Roster.after, Roster.after, Machine.run_append]

/-- What is known of the built-in collector if no other has its name. -/
theorem entry_of_unrivalled (cache : Cache) (clock : Clock) (measured : HostInfo)
    {collectors : List (String × Plan)} {operations : List Operation}
    (lasts : .act .cancel ∉ operations)
    (others : ∀ collector ∈ collectors, collector.1 ≠ hostCollector) :
    let agent := start settings cache clock (some measured) collectors
    let roster := (Machine.run operate agent operations).roster
    ∃ entry, roster.entry? hostCollector = some entry ∧
      roster.registered[entry.registration]? = some (hostCollector, hostPlan measured) ∧
      (entry.state = .running ↔ ∃ task ∈ roster.tasks,
        task.registration = entry.registration ∧ task.isLive = true) ∧
      entry.condition.Mandatory (settings.interval hostCollector ≠ 0 ||
        (agent.inquiries operations).any (Roster.Request.enables hostCollector)) := by
  intro agent roster
  have asked := roster_run_start settings cache clock measured collectors operations
  have kept (request : Roster.Request) (member : request ∈ agent.inquiries operations) :
      request.replaces hostCollector = false := (spared_of_mem_inquiries member).1 hostCollector
  obtain ⟨entry, found, standing, condition⟩ := entry_of_last settings [] (hostPlan measured) true
    others kept (show setup settings measured collectors ++ agent.inquiries operations = _ by
      simp [setup])
  have goes : .shutdown ∉ setup settings measured collectors ++ agent.inquiries operations := by
    intro member
    rcases List.mem_append.mp member with first | later
    · simp [setup, enrolment] at first
    · exact lasts ((spared_of_mem_inquiries later).2.2 rfl)
  have live := Roster.running_iff_live found standing (fun _ => nofun) goes
  have unstopped : .stopAll ∉ agent.inquiries operations := fun stops =>
    (spared_of_mem_inquiries stops).2.1 rfl
  have mandatory := (Condition.mandatory_startAll hostCollector
    (settings.interval hostCollector) 0).foldl hostCollector unstopped
  rw [← condition] at mandatory
  rw [← asked] at found standing live
  exact ⟨entry, found, standing, live, mandatory⟩

/-- What is known of the last of the other collectors that have the name of the built-in one. -/
theorem entry_of_rival (cache : Cache) (clock : Clock) (measured : HostInfo)
    {before after : List (String × Plan)} {plan : Plan} (operations : List Operation)
    (others : ∀ collector ∈ after, collector.1 ≠ hostCollector) :
    let agent := start settings cache clock (some measured)
      (before ++ (hostCollector, plan) :: after)
    let roster := (Machine.run operate agent operations).roster
    ∃ entry, roster.entry? hostCollector = some entry ∧
      roster.registered[entry.registration]? = some (hostCollector, plan) ∧
      entry.required = false := by
  intro agent roster
  have asked := roster_run_start settings cache clock measured
    (before ++ (hostCollector, plan) :: after) operations
  have kept (request : Roster.Request) (member : request ∈ agent.inquiries operations) :
      request.replaces hostCollector = false := (spared_of_mem_inquiries member).1 hostCollector
  obtain ⟨entry, found, standing, condition⟩ := entry_of_last settings
    (enrolment settings true (hostCollector, hostPlan measured) ::
      before.map (enrolment settings false)) plan false others kept
    (show setup settings measured (before ++ (hostCollector, plan) :: after) ++
      agent.inquiries operations = _ by simp [setup])
  rw [← asked] at found standing
  have required := congrArg Condition.required condition
  rw [Condition.required_foldl, Condition.required_after] at required
  exact ⟨entry, found, standing, required⟩

end

/-- An agent is started with the built-in collector and others, and then anything happens until its
end. If no other collector has the name of the built-in one, that name stands for it: it is reported
as required and cannot be disabled. It is enabled, running and polled if its interval is not zero or
once it was enabled; otherwise it is disabled, as it was registered. If others have the name, the
last of them has taken its place; it is not required and can be disabled. -/
theorem built_in_collector_stays_on (settings : Settings) (cache : Cache) (clock : Clock)
    (measured : HostInfo) (collectors : List (String × Plan)) (operations : List Operation)
    (lasts : .act .cancel ∉ operations) :
    let agent := start settings cache clock (some measured) collectors
    let now := Machine.run operate agent operations
    ((∀ collector ∈ collectors, collector.1 ≠ hostCollector) →
      ∃ entry report, now.roster.entry? hostCollector = some entry ∧
        now.roster.registered[entry.registration]? = some (hostCollector, hostPlan measured) ∧
        now.roster.status hostCollector = .ok report ∧ report.required = true ∧
        now.operate (.disable hostCollector) = (now, .error (.required hostCollector)) ∧
        (settings.interval hostCollector ≠ 0 ∨ .enable hostCollector ∈ operations →
          report.enabled = true ∧ report.state = .running ∧
            ∃ task ∈ now.roster.tasks, task.registration = entry.registration ∧
              task.isLive = true) ∧
        (settings.interval hostCollector = 0 → .enable hostCollector ∉ operations →
          report.enabled = false ∧ report.state = .disabled ∧
            ∀ task ∈ now.roster.tasks, task.registration = entry.registration →
              task.isLive = false)) ∧
    ∀ before plan after, collectors = before ++ (hostCollector, plan) :: after →
      (∀ collector ∈ after, collector.1 ≠ hostCollector) →
      ∃ entry report, now.roster.entry? hostCollector = some entry ∧
        now.roster.registered[entry.registration]? = some (hostCollector, plan) ∧
        now.roster.status hostCollector = .ok report ∧ report.required = false ∧
        (now.operate (.disable hostCollector)).2 = .ok () ∧
        ∃ disabled,
          (now.operate (.disable hostCollector)).1.roster.status hostCollector = .ok disabled ∧
          disabled.state ≠ .running := by
  intro agent now
  have status {entry : Entry} (found : now.roster.entry? hostCollector = some entry) :
      now.roster.status hostCollector = .ok (now.roster.statusOf entry) := by
    rw [Roster.status, found]
  refine ⟨fun others => ?_, fun before plan after listed others => ?_⟩
  · obtain ⟨entry, found, standing, live, mandatory⟩ :=
      entry_of_unrivalled settings cache clock measured lasts others
    refine ⟨entry, now.roster.statusOf entry, found, standing, status found, mandatory.required,
      disable_of_required found mandatory.required, fun switched => ?_, fun zero spared => ?_⟩
    · have on : (decide (settings.interval hostCollector ≠ 0) ||
          (agent.inquiries operations).any (Roster.Request.enables hostCollector)) = true := by
        rw [Bool.or_eq_true, decide_eq_true_eq, any_inquiries]
        exact switched
      rw [on] at mandatory
      exact ⟨mandatory.enabled, mandatory.state, live.mp mandatory.state⟩
    · have off : (decide (settings.interval hostCollector ≠ 0) ||
          (agent.inquiries operations).any (Roster.Request.enables hostCollector)) = false := by
        rw [Bool.or_eq_false_iff, decide_eq_false_iff_not, ← Bool.not_eq_true, any_inquiries]
        exact ⟨not_not.mpr zero, spared⟩
      rw [off] at mandatory
      refine ⟨mandatory.enabled, mandatory.state, fun task member own => ?_⟩
      refine Bool.eq_false_iff.mpr fun alive => ?_
      have running := mandatory.state.symm.trans (live.mpr ⟨task, member, own, alive⟩)
      exact absurd running (by decide)
  · subst listed
    obtain ⟨entry, found, standing, optional⟩ :=
      entry_of_rival settings cache clock measured operations others
    obtain ⟨answer, disabled⟩ := disable_of_optional found optional
    exact ⟨entry, now.roster.statusOf entry, found, standing, status found, optional, answer,
      disabled⟩

/-- With the interval zero the built-in collector is disabled until it is enabled; it cannot be
disabled then. -/
theorem built_in_collector_of_interval_zero :
    ∃ settings, Settings.ofText silentEnvironment "\x7b\"intervals\":\x7b\"system\":0\x7d\x7d" =
        .ok settings ∧
      let operations : List Operation := [.disable "system", .changeInterval "system" 60,
        .enable "system", .collect 0, .disable "system"]
      let now := Machine.run operate
        (start settings .empty ⟨.epoch, 0⟩ (some default) [("gpu", Plan.ofList [])]) operations
      ∃ report, now.roster.status "system" = .ok report ∧ report.required = true ∧
        report.enabled = true ∧ report.state = .running ∧
        now.operate (.disable "system") = (now, .error (.required "system")) := by
  refine ⟨_, rfl, ?_⟩
  intro operations now
  obtain ⟨stays, -⟩ := built_in_collector_stays_on _ .empty ⟨.epoch, 0⟩ default
    [("gpu", Plan.ofList [])] operations (by simp [operations])
  obtain ⟨entry, report, -, -, status, required, refused, on, -⟩ := stays (by simp [hostCollector])
  obtain ⟨enabled, running, -⟩ := on (.inr (by simp [operations, hostCollector]))
  exact ⟨report, status, required, enabled, running, refused⟩

/-- Settings are accepted that leave the built-in collector disabled, and another collector of its
name takes its place and can be disabled. -/
theorem built_in_collector_off_or_replaced :
    (∃ settings, Settings.ofText silentEnvironment
        "\x7b\"intervals\":\x7b\"system\":0\x7d\x7d" = .ok settings ∧
      ∃ report, (start settings .empty ⟨.epoch, 0⟩ (some default) []).roster.status "system" =
          .ok report ∧
        report.required = true ∧ report.enabled = false ∧ report.state = .disabled) ∧
    ∃ settings, Settings.ofText silentEnvironment "\x7b\x7d" = .ok settings ∧
      let agent := start settings .empty ⟨.epoch, 0⟩ (some default) [("system", Plan.ofList [])]
      (∃ report, agent.roster.status "system" = .ok report ∧ report.required = false) ∧
      ∃ report, (agent.operate (.disable "system")).1.roster.status "system" = .ok report ∧
        report.enabled = false ∧ report.state = .stopped :=
  ⟨⟨_, rfl, _, rfl, rfl, rfl, rfl⟩, _, rfl, ⟨_, rfl, rfl⟩, _, rfl, rfl, rfl⟩

end ServerMonitor.Agent
