/-
This file states what the events retell that an agent publishes about its collectors
when the calls to control them are made one at a time. An event is published by the
calls that switch a collector on or off, by each of them once, and tells what is
reported of the collector right after; no other call publishes anything. To start or
stop all collectors, or to change an interval, leaves every collector enabled or not
as it was, so whoever saw it registered and has heard all events since knows whether
it is enabled.
-/

import ServerMonitor.Proofs.Agent.Course
import ServerMonitor.Proofs.Collector.Call

namespace ServerMonitor

open Collector

/-- Whether a collector is enabled as events retell it to one who knew how it was at first. -/
def retold (name : String) (enabled : Bool) (events : List CollectorStateEvent) : Bool :=
  events.foldl (fun enabled event => if event.collector = name then event.enabled else enabled)
    enabled

theorem retold_append (name : String) (enabled : Bool) (first second : List CollectorStateEvent) :
    retold name enabled (first ++ second) = retold name (retold name enabled first) second :=
  List.foldl_append

/-! ### What a request announces -/

namespace Roster

theorem event?_enable (roster : Roster) (name : String) (time : Nat) (now : Instant) :
    (roster.perform (.enable name time now)).2.event? =
      (roster.condition? name).bind fun condition =>
        if condition.state = .running then none
        else some ((condition.enable name).event name now) := by
  rw [answer_enable]
  cases roster.condition? name <;> rfl

theorem event?_disable (roster : Roster) (name : String) (now : Instant) :
    (roster.perform (.disable name now)).2.event? =
      (roster.condition? name).bind fun condition =>
        if condition.required ∨ condition.state ≠ .running then none
        else some (condition.disable.event name now) := by
  rw [answer_disable]
  cases roster.condition? name with
  | none => rfl
  | some condition =>
    by_cases required : condition.required = true <;>
      by_cases running : condition.state = .running <;> simp [Reply.event?, required, running]

/-- Nothing else is announced. -/
theorem event?_perform (roster : Roster) {request : Request} {event : CollectorStateEvent}
    (announced : (roster.perform request).2.event? = some event) :
    (∃ name time now, request = .enable name time now) ∨ ∃ name now, request = .disable name now := by
  cases request with
  | enable name time now => exact .inl ⟨name, time, now, rfl⟩
  | disable name now => exact .inr ⟨name, now, rfl⟩
  | changeInterval name seconds time =>
    rw [perform] at announced
    split at announced <;> cases announced
  | register | startAll | stopAll | step | stepHeedless | shutdown => cases announced

/-- What a request makes of a collector leaves it enabled or not as it was, unless it is
announced. -/
theorem enabled_after (roster : Roster) (request : Request) {name : String} {condition : Condition}
    (held : roster.condition? name = some condition) :
    (condition.after name request).enabled =
      retold name condition.enabled (roster.perform request).2.event?.toList := by
  cases request with
  | enable other time now =>
    rw [event?_enable, Condition.after]
    by_cases own : other = name
    · rw [if_pos own, own, held, Option.bind_some, Condition.enable]
      by_cases running : condition.state = .running
      · rw [if_pos running, if_pos running]
        rfl
      · rw [if_neg running, if_neg running]
        exact (if_pos rfl).symm
    · rw [if_neg own]
      cases roster.condition? other with
      | none => rfl
      | some found =>
        rw [Option.bind_some]
        split
        · rfl
        · exact (if_neg own).symm
  | disable other now =>
    rw [event?_disable, Condition.after]
    by_cases own : other = name
    · rw [if_pos own, own, held, Option.bind_some, Condition.disable]
      by_cases idle : condition.required = true ∨ condition.state ≠ .running
      · rw [if_pos idle, if_pos idle]
        rfl
      · rw [if_neg idle, if_neg idle]
        exact (if_pos rfl).symm
    · rw [if_neg own]
      cases roster.condition? other with
      | none => rfl
      | some found =>
        rw [Option.bind_some]
        split
        · rfl
        · exact (if_neg own).symm
  | startAll time =>
    show (if condition.isStartable = true then condition.started else condition).enabled =
      condition.enabled
    split
    · rename_i startable
      rw [Condition.isStartable, Bool.and_eq_true, Bool.and_eq_true] at startable
      exact startable.1.1.symm
    · rfl
  | stopAll =>
    show (if condition.state = .running then condition.stopped else condition).enabled =
      condition.enabled
    split <;> rfl
  | changeInterval other seconds time =>
    have silent : (roster.perform (.changeInterval other seconds time)).2.event? = none := by
      rw [perform]
      split <;> rfl
    rw [silent, Condition.after]
    split <;> rfl
  | register | step | stepHeedless | shutdown => rfl

end Roster

namespace Agent

/-! ### What a turn announces -/

/-- The event that the agent publishes about a collector in a turn. -/
def announces? (agent : Agent) (turn : Turn) : Option CollectorStateEvent :=
  (agent.request? turn).bind fun request => (agent.roster.perform request).2.event?

/-- The events that the agent publishes about collectors, in that order. -/
def announced (agent : Agent) (turns : List Turn) : List CollectorStateEvent :=
  Machine.log proceed (fun agent turn => (agent.announces? turn).toList) agent turns

/-- Whether a turn is a call to control the collectors. -/
def Turn.isCall : Turn → Bool
  | .operate (.enable _) | .operate (.disable _) | .operate (.changeInterval _ _) => true
  | .register _ _ _ _ | .startCollectors | .stopCollectors => true
  | _ => false

/-- Whether a turn registers a collector under a name. -/
def Turn.replaces (name : String) : Turn → Bool
  | .register other _ _ _ => other = name
  | _ => false

/-- Whether a turn is a call that switches a collector on or off, by what is reported of it before
and after. -/
inductive Turn.Switches (name : String) (before after : CollectorStatus) : Turn → Prop
  | on (idle : before.state ≠ .running) (running : after.state = .running) :
    Switches name before after (.operate (.enable name))
  | off (running : before.state = .running) (stopped : after.state = .stopped) :
    Switches name before after (.operate (.disable name))

/-- A call does to the bus what it announces there. -/
theorem bus_of_isCall (agent : Agent) {turn : Turn} (call : turn.isCall = true) :
    (agent.proceed turn).1.bus = (agent.announces? turn).elim agent.bus fun event =>
      (agent.bus.publish stateTopic.name (Console.announcement event)).1 := by
  cases turn with
  | operate operation =>
    cases operation with
    | enable name =>
      show (agent.settle (agent.enable name)).1.bus = _
      rw [enable, announces?, request?, inquiry?, Option.bind_some, Roster.perform]
      cases agent.roster.enable name agent.time agent.clock.instant with
      | error refusal => rfl
      | ok answer =>
        obtain ⟨roster, _ | event⟩ := answer <;> rfl
    | disable name =>
      show (agent.settle (agent.disable name)).1.bus = _
      rw [disable, announces?, request?, inquiry?, Option.bind_some, Roster.perform]
      cases agent.roster.disable name agent.clock.instant with
      | error refusal => rfl
      | ok answer =>
        obtain ⟨roster, _ | event⟩ := answer <;> rfl
    | changeInterval name seconds =>
      show (agent.settle (agent.changeInterval name seconds)).1.bus = _
      rw [changeInterval, announces?, request?, inquiry?, Option.bind_some, Roster.perform]
      cases agent.roster.changeInterval name seconds agent.time <;> rfl
    | collect | elapse | act => cases call
  | register | startCollectors | stopCollectors => rfl
  | _ => cases call

/-- What a turn makes of a collector that it does not register anew. -/
theorem condition?_proceed {agent : Agent} (accounted : agent.roster.Accounted) {turn : Turn}
    {name : String} (kept : turn.replaces name = false) :
    (agent.proceed turn).1.roster.condition? name =
      (agent.roster.condition? name).map fun condition =>
        (agent.request? turn).elim condition (condition.after name) := by
  obtain ⟨handed, sound⟩ := accounted.sound
  rw [agent.roster_proceed]
  cases asks : agent.request? turn with
  | none => exact Option.map_id'.symm
  | some request =>
    refine sound.condition?_perform_of_kept ?_
    cases requests_of_request? asks with
    | register => exact kept
    | _ => rfl

section

variable {agent : Agent} {turn : Turn} (accounted : agent.roster.Accounted)

include accounted

/-- An event tells what is reported of its collector after the call that switched it. -/
theorem switches_of_announces? {event : CollectorStateEvent}
    (announces : agent.announces? turn = some event) :
    ∃ before after, agent.roster.status event.collector = .ok before ∧
      (agent.proceed turn).1.roster.status event.collector = .ok after ∧
      turn.Switches event.collector before after ∧ event.enabled = after.enabled ∧
      event.state = after.state ∧ event.interval = after.interval := by
  obtain ⟨request, asks, told⟩ := Option.bind_eq_some_iff.mp announces
  -- Either call makes of the collector the condition that its event tells.
  have switched {name : String} {before : Condition} {change : Condition → Condition}
      (held : agent.roster.condition? name = some before)
      (changed : (agent.proceed turn).1.roster.condition? name =
        (agent.roster.condition? name).map change)
      (switches : ∀ first last : CollectorStatus, first.state = before.state →
        last.state = (change before).state → turn.Switches name first last) :
      ∃ first last, agent.roster.status name = .ok first ∧
        (agent.proceed turn).1.roster.status name = .ok last ∧ turn.Switches name first last ∧
        (change before).enabled = last.enabled ∧ (change before).state = last.state ∧
        (change before).interval = last.interval := by
    rw [held] at changed
    obtain ⟨first, status, -, -, state, -⟩ := Roster.status_of_condition held
    obtain ⟨last, statusAfter, enabled, interval, stateAfter, -⟩ :=
      Roster.status_of_condition changed
    exact ⟨first, last, status, statusAfter, switches first last state stateAfter, enabled.symm,
      stateAfter.symm, interval.symm⟩
  rcases agent.roster.event?_perform told with ⟨name, time, now, rfl⟩ | ⟨name, now, rfl⟩
  · cases requests_of_request? asks
    rw [Roster.event?_enable] at told
    obtain ⟨condition, held, told⟩ := Option.bind_eq_some_iff.mp told
    split at told
    · cases told
    · rename_i idle
      cases told
      have started : (condition.enable name).state = .running := by
        rw [Condition.enable, if_neg idle]
        rfl
      refine switched held ((condition?_proceed accounted rfl).trans ?_) fun first last state
        stateAfter => .on (state ▸ idle) (stateAfter.trans started)
      exact congrArg (Option.map · _) (funext fun condition => if_pos rfl)
  · cases requests_of_request? asks
    rw [Roster.event?_disable] at told
    obtain ⟨condition, held, told⟩ := Option.bind_eq_some_iff.mp told
    split at told
    · cases told
    · rename_i active
      cases told
      have running : condition.state = .running := not_not.mp fun idle => active (.inr idle)
      have halted : condition.disable.state = .stopped := by
        rw [Condition.disable, if_neg active]
        rfl
      refine switched held ((condition?_proceed accounted rfl).trans ?_) fun first last state
        stateAfter => .off (state.trans running) (stateAfter.trans halted)
      exact congrArg (Option.map · _) (funext fun condition => if_pos rfl)

/-- A call that switches a collector announces it. -/
theorem announces?_of_switches {name : String} {before after : CollectorStatus}
    (status : agent.roster.status name = .ok before)
    (statusAfter : (agent.proceed turn).1.roster.status name = .ok after)
    (switches : turn.Switches name before after) :
    ∃ event, agent.announces? turn = some event ∧ event.collector = name := by
  obtain ⟨condition, held, -, -, state, -⟩ := Roster.condition?_of_status status
  cases switches with
  | on idle running =>
    refine ⟨(condition.enable name).event name agent.clock.instant, ?_, rfl⟩
    refine (Roster.event?_enable _ _ _ _).trans ?_
    rw [held, Option.bind_some, if_neg (state ▸ idle)]
  | off running stopped =>
    obtain ⟨last, heldAfter, -, -, stateAfter, -⟩ := Roster.condition?_of_status statusAfter
    rw [condition?_proceed accounted rfl, held] at heldAfter
    have same : (if name = name then condition.disable else condition) = last :=
      Option.some.inj heldAfter
    rw [if_pos rfl] at same
    have active : ¬(condition.required = true ∨ condition.state ≠ .running) := by
      intro idle
      -- A call that is refused, or finds the collector idle, does not stop it.
      rw [Condition.disable, if_pos idle] at same
      rw [stateAfter, ← same, ← state, running] at stopped
      cases stopped
    refine ⟨condition.disable.event name agent.clock.instant, ?_, rfl⟩
    refine (Roster.event?_disable _ _ _).trans ?_
    rw [held, Option.bind_some, if_neg active]

end

/-! ### Runs -/

/-- Whoever knew of a collector whether it was enabled, and has heard all events since, knows it
still, unless it was registered anew. -/
theorem retold_of_course {agent : Agent} (orderly : agent.Orderly) {name : String}
    {turns : List Turn} (kept : ∀ turn ∈ turns, turn.replaces name = false)
    {condition : Condition} (held : agent.roster.condition? name = some condition) :
    ∃ later, (agent.course turns).roster.condition? name = some later ∧
      later.enabled = retold name condition.enabled (agent.announced turns) := by
  induction turns generalizing agent condition with
  | nil => exact ⟨condition, held, rfl⟩
  | cons turn rest inductionHypothesis =>
    obtain ⟨keptFirst, keptRest⟩ := List.forall_mem_cons.mp kept
    have heldNext := condition?_proceed orderly.roster keptFirst
    rw [held] at heldNext
    obtain ⟨later, heldLater, enabled⟩ :=
      inductionHypothesis (orderly.proceed turn) keptRest heldNext
    refine ⟨later, heldLater, enabled.trans ?_⟩
    have split : agent.announced (turn :: rest) =
      (agent.announces? turn).toList ++ (agent.proceed turn).1.announced rest := rfl
    rw [split, retold_append]
    refine congrArg (retold name · _) ?_
    rw [announces?]
    cases agent.request? turn with
    | none => rfl
    | some request => exact agent.roster.enabled_after request held

section

variable (busBuffer : Nat) (rules : StreamRules) (crossOrigin : Bool) (cache : Cache)
  (clock : Clock)

/-- Calls to control the collectors are made to an agent one at a time, in between anything else
happens. A turn announces an event about a collector if and only if it is a call that switches the
collector on or off, and the event tells what is reported of it right after. A call publishes the
event that it announces, once, and nothing else. Whoever knew whether a collector was enabled when
it was registered, and goes by the events since, knows whether it is enabled now. -/
theorem announcements_retell_enabled (past : List Turn) :
    let start := fresh busBuffer rules crossOrigin cache clock
    let agent := start.course past
    (∀ turn, let next := (agent.proceed turn).1
      (∀ name, (∃ event, agent.announces? turn = some event ∧ event.collector = name) ↔
        ∃ before after, agent.roster.status name = .ok before ∧
          next.roster.status name = .ok after ∧ turn.Switches name before after) ∧
      (∀ event, agent.announces? turn = some event →
        ∃ report, next.roster.status event.collector = .ok report ∧
          event.enabled = report.enabled ∧ event.state = report.state ∧
          event.interval = report.interval) ∧
      (turn.isCall = true → next.bus = (agent.announces? turn).elim agent.bus fun event =>
        (agent.bus.publish stateTopic.name (Console.announcement event)).1)) ∧
    ∀ before name plan interval required after,
      past = before ++ .register name plan interval required :: after →
      (∀ turn ∈ after, turn.replaces name = false) →
      let registered := start.course (before ++ [.register name plan interval required])
      ∃ first report, registered.roster.status name = .ok first ∧
        agent.roster.status name = .ok report ∧
        report.enabled = retold name first.enabled (registered.announced after) := by
  intro start agent
  have orderly (turns : List Turn) : (start.course turns).Orderly :=
    (Orderly.fresh busBuffer rules crossOrigin cache clock).course turns
  have accounted : agent.roster.Accounted := (orderly past).roster
  refine ⟨fun turn => ⟨fun name => ⟨?_, ?_⟩, fun event announces => ?_, agent.bus_of_isCall⟩, ?_⟩
  · rintro ⟨event, announces, rfl⟩
    obtain ⟨before, after, status, statusAfter, switches, -⟩ :=
      switches_of_announces? accounted announces
    exact ⟨before, after, status, statusAfter, switches⟩
  · rintro ⟨before, after, status, statusAfter, switches⟩
    exact announces?_of_switches accounted status statusAfter switches
  · obtain ⟨_, after, -, statusAfter, -, told⟩ := switches_of_announces? accounted announces
    exact ⟨after, statusAfter, told⟩
  · intro before name plan interval required after split kept registered
    have held : registered.roster.condition? name = some (.fresh interval required) := by
      show Roster.condition? (Machine.run proceed start _).roster name = _
      rw [Machine.run_concat]
      exact ((start.course before).roster.condition?_register name plan interval required
        name).trans (if_pos rfl)
    obtain ⟨later, heldLater, enabled⟩ := retold_of_course (orderly _) kept held
    have reached : agent = registered.course after := by
      show start.course past = Machine.run proceed (Machine.run proceed start _) after
      rw [split, ← Machine.run_append, List.append_assoc]
      rfl
    obtain ⟨first, status, enabledFirst, -⟩ := Roster.status_of_condition held
    rw [← reached] at heldLater
    obtain ⟨report, statusLater, enabledLater, -⟩ := Roster.status_of_condition heldLater
    refine ⟨first, report, status, statusLater, ?_⟩
    rw [enabledLater, enabledFirst, enabled]

end

/-- A collector that is disabled at first is enabled twice, sees its interval changed and all
collectors stopped and started, and is enabled by what was announced: one event, of the first of
these calls. -/
theorem one_announcement_of_many_calls :
    let start := fresh 4 default false .empty ⟨.epoch, 0⟩
    let registration : Turn := .register "gpu" (Plan.ofList []) 0 false
    let calls : List Turn := [.operate (.enable "gpu"), .operate (.enable "gpu"),
      .operate (.changeInterval "gpu" 7), .stopCollectors, .startCollectors]
    let registered := start.course [registration]
    (∀ turn ∈ calls, turn.replaces "gpu" = false) ∧
    registered.announced calls =
      [⟨Kind.collectorState.topic, "gpu", true, .running, 10, .epoch⟩] ∧
    ∃ first report, registered.roster.status "gpu" = .ok first ∧
      (start.course (registration :: calls)).roster.status "gpu" = .ok report ∧
      report.enabled = retold "gpu" first.enabled (registered.announced calls) := by
  intro start registration calls registered
  have kept : ∀ turn ∈ calls, turn.replaces "gpu" = false := by decide
  refine ⟨kept, rfl, ?_⟩
  obtain ⟨-, retells⟩ :=
    announcements_retell_enabled 4 default false .empty ⟨.epoch, 0⟩ (registration :: calls)
  exact retells [] "gpu" (Plan.ofList []) 0 false calls rfl kept

end Agent

end ServerMonitor
