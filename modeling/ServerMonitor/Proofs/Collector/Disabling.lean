/-
This file states what it means that a collector was disabled. A collector that
was running, or not enabled anyway, is off afterwards and stays off until it is
enabled or registered again, however often all collectors are started and
stopped; in the meantime no task runs it. To disable a collector that is not
running changes nothing, so one that was only stopped together with all others is
started again together with them.
-/

import ServerMonitor.Proofs.Collector.Condition
import ServerMonitor.Proofs.Collector.Tasks

namespace ServerMonitor

/-- Whether a request turns a collector on again. -/
def Roster.Request.revives (name : String) : Roster.Request → Bool
  | .enable other _ _ | .register other _ _ _ => other = name
  | _ => false

namespace Collector.Condition

/-- Neither enabled nor running. -/
structure IsOff (condition : Condition) : Prop where
  disabled : condition.enabled = false
  idle : condition.state ≠ .running

/-- Nothing but a request to enable the collector turns it on. -/
theorem IsOff.after {condition : Condition} (off : condition.IsOff) {name : String}
    {request : Roster.Request} (spared : request.revives name = false) :
    (condition.after name request).IsOff := by
  cases request with
  | register other plan interval required => exact off
  | startAll time =>
    have unstartable : condition.isStartable = false := by simp [isStartable, off.disabled]
    simpa [Condition.after, unstartable] using off
  | stopAll => simpa [Condition.after, off.idle] using off
  | enable other time now =>
    have different : ¬other = name := of_decide_eq_false spared
    simpa [Condition.after, different] using off
  | disable other now => simpa [Condition.after, disable, off.idle] using off
  | changeInterval other seconds time =>
    rw [Condition.after]
    split
    · exact ⟨off.disabled, off.idle⟩
    · exact off
  | step | stepHeedless | shutdown => exact off

/-- A running collector is off after it was disabled, unless it is required. -/
theorem isOff_disable {condition : Condition} (optional : condition.required = false)
    (ready : condition.state = .running ∨ condition.enabled = false) :
    condition.disable.IsOff := by
  rw [disable]
  by_cases running : condition.state = .running
  · rw [if_neg (by simp [optional, running])]
    exact ⟨rfl, (by decide : RunState.stopped ≠ .running)⟩
  · rw [if_pos (.inr running)]
    exact ⟨ready.resolve_left running, running⟩

/-- No collector is running after it was disabled, unless it is required. -/
theorem state_disable_ne_running {condition : Condition} (optional : condition.required = false) :
    condition.disable.state ≠ .running := by
  rw [disable]
  by_cases running : condition.state = .running
  · rw [if_neg (by simp [optional, running])]
    exact (by decide : RunState.stopped ≠ .running)
  · rw [if_pos (.inr running)]
    exact running

end Collector.Condition

namespace Roster

open Collector

/-- The collector of a name is there and off. -/
def IsOff (roster : Roster) (name : String) : Prop :=
  ∃ condition, roster.condition? name = some condition ∧ condition.IsOff

theorem Sound.isOff_perform {roster : Roster} {handed : List Nat} (sound : roster.Sound handed)
    {name : String} {request : Request} (spared : request.revives name = false)
    (off : roster.IsOff name) : (roster.perform request).1.IsOff name := by
  obtain ⟨condition, held, isOff⟩ := off
  have step := sound.condition?_perform request name
  rw [held] at step
  cases request with
  | register other plan interval required =>
    have different : ¬other = name := of_decide_eq_false spared
    exact ⟨condition, step.trans (if_neg different), isOff⟩
  | _ => exact ⟨_, step, isOff.after spared⟩

/-- A collector stays off until it is enabled or registered again. -/
theorem isOff_after_append {past : List Request} {name : String} (off : (after past).IsOff name)
    (future : List Request) (spared : ∀ request ∈ future, request.revives name = false) :
    (after (past ++ future)).IsOff name := by
  rw [after, Machine.run_append]
  exact (Machine.run_invariant_of_forall perform
    (fun roster => (∃ handed, roster.Sound handed) ∧ roster.IsOff name)
    (fun roster request allowed ⟨⟨handed, sound⟩, off⟩ =>
      ⟨⟨_, sound.perform request⟩, sound.isOff_perform allowed off⟩)
    ⟨⟨_, sound_after past⟩, off⟩ future spared).2

/-- No task runs a collector that is off. -/
theorem cancelled_of_isOff {requests : List Request} {name : String}
    (off : (after requests).IsOff name) {task : Task} (member : task ∈ (after requests).tasks)
    (own : (after requests).collectorOf task = some name) : task.cancelled = true := by
  by_contra uncancelled
  obtain ⟨entry, found, owns, named⟩ :=
    owner_after requests member (Bool.eq_false_iff.mpr uncancelled)
  obtain ⟨condition, held, isOff⟩ := off
  have sameName : entry.name = name := Option.some.inj (named.symm.trans own)
  rw [condition?, ← sameName, found] at held
  exact isOff.idle (Option.some.inj held ▸ owns.state)

/-- Disabling a collector that is not required succeeds, and the collector is not running then. One
that was not running is left as it is. One that was running, or not enabled, is off afterwards and
stays off, and no task runs it, until it is enabled or registered again; to start all collectors
does not start it. -/
theorem disabled_stays_off (past : List Request) (name : String) (now : Instant) (entry : Entry)
    (registered : Roster.entry? (after past) name = some entry)
    (optional : entry.required = false) :
    let disabled := after (past ++ [.disable name now])
    (∃ event, ((after past).perform (.disable name now)).2 = .answered (.ok event) ∧
      (entry.state ≠ .running → disabled = after past ∧ event = none)) ∧
    (∃ report, disabled.status name = .ok report ∧ report.state ≠ .running) ∧
    (entry.state = .running ∨ entry.enabled = false →
      ∀ future : List Request, (∀ request ∈ future, request.revives name = false) →
        let later := after (past ++ .disable name now :: future)
        (∃ report, later.status name = .ok report ∧ report.enabled = false ∧
          report.state ≠ .running) ∧
        ∀ task ∈ later.tasks, later.collectorOf task = some name → task.cancelled = true) := by
  intro disabled
  have held : (after past).condition? name = some entry.condition := by
    rw [condition?, registered]
    rfl
  have changed : disabled.condition? name = some entry.condition.disable := by
    show (after (past ++ [.disable name now])).condition? name = _
    rw [after_concat, condition?_disable, held]
    exact congrArg some (if_pos rfl)
  refine ⟨?_, ?_, fun ready future spared => ?_⟩
  · have performed := (after past).perform_disable_eq name now
    rw [registered] at performed
    dsimp only at performed
    rw [if_neg (by rw [optional]; exact Bool.false_ne_true)] at performed
    by_cases idle : entry.state ≠ .running
    · rw [if_pos idle] at performed
      have unchanged : disabled = after past := (after_concat past _).trans (by rw [performed])
      exact ⟨none, by rw [performed], fun _ => ⟨unchanged, rfl⟩⟩
    · rw [if_neg idle] at performed
      exact ⟨_, by rw [performed], fun notRunning => absurd notRunning idle⟩
  · obtain ⟨report, status, -, -, state, -⟩ := status_of_condition changed
    exact ⟨report, status, state ▸ Condition.state_disable_ne_running optional⟩
  · have off : (after (past ++ .disable name now :: future)).IsOff name := by
      rw [← List.singleton_append, ← List.append_assoc]
      refine isOff_after_append ⟨_, changed, ?_⟩ future spared
      exact Condition.isOff_disable optional ready
    refine ⟨?_, fun task member own => cancelled_of_isOff off member own⟩
    obtain ⟨condition, heldLater, isOff⟩ := off
    obtain ⟨report, status, enabled, -, state, -⟩ := status_of_condition heldLater
    exact ⟨report, status, enabled.trans isOff.disabled, state ▸ isOff.idle⟩

/-- A collector that was disabled while it ran is not started when all collectors are. -/
theorem off_of_disabled_while_running :
    let later := after [.register "docker" (Plan.ofList []) 10 false, .startAll 0,
      .disable "docker" .epoch, .startAll 5]
    (∃ report, later.status "docker" = .ok report ∧ report.enabled = false ∧
      report.state ≠ .running) ∧
    ∀ task ∈ later.tasks, later.collectorOf task = some "docker" → task.cancelled = true := by
  let past : List Request := [.register "docker" (Plan.ofList []) 10 false, .startAll 0]
  have registered : Roster.entry? (after past) "docker" =
      some ⟨"docker", 0, true, 10, .running, false, some 0, some 0⟩ := rfl
  obtain ⟨-, -, off⟩ := disabled_stays_off past "docker" .epoch _ registered rfl
  refine off (.inl rfl) [.startAll 5] fun request member => ?_
  rw [List.mem_singleton.mp member]
  rfl

/-- A collector that was disabled while it was stopped stays enabled, and is started again when all
collectors are. -/
theorem running_after_disabled_while_stopped :
    let past : List Request :=
      [.register "docker" (Plan.ofList []) 10 false, .startAll 0, .stopAll]
    let disable : Request := .disable "docker" .epoch
    (Roster.entry? (after past) "docker").map (·.required) = some false ∧
    ((after past).perform disable).2 = .answered (.ok none) ∧
    (∃ report, (after (past ++ [disable])).status "docker" = .ok report ∧
      report.enabled = true) ∧
    ∃ report, (after (past ++ [disable, .startAll 5])).status "docker" = .ok report ∧
      report.state = .running :=
  ⟨rfl, rfl, ⟨_, rfl, rfl⟩, ⟨_, rfl, rfl⟩⟩

end Roster

end ServerMonitor
