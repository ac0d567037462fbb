/-
This file bounds the time between two passes. Accepted settings give every
collector no interval or one within the limits, and so does every request: to
enable a collector without one gives it the default of its name, and a new one is
checked. A collector that runs has an interval, so the periods of all tasks are
within the limits although nothing checks them where a task is started.
-/

import ServerMonitor.Proofs.Collector.Required
import ServerMonitor.Proofs.Settings.Serving

namespace ServerMonitor

open Collector

/-! ### Intervals -/

namespace Collector

/-- No interval, or one within the limits. -/
def IsPace (seconds : UInt64) : Prop := seconds = 0 ∨ isAllowedInterval seconds = true

theorem isAllowedInterval_iff {seconds : UInt64} :
    isAllowedInterval seconds = true ↔ 5 ≤ seconds ∧ seconds ≤ 3600 := by
  rw [isAllowedInterval, Bool.and_eq_true, decide_eq_true_eq, decide_eq_true_eq]
  rfl

theorem isAllowedInterval_defaultInterval (name : String) :
    isAllowedInterval (defaultInterval name) = true := by
  unfold defaultInterval
  split <;> decide

namespace Condition

/-- A request sets an interval within the limits, or leaves it as it was. -/
theorem interval_after (name : String) (condition : Condition) (request : Roster.Request) :
    isAllowedInterval (condition.after name request).interval = true ∨
      (condition.after name request).interval = condition.interval := by
  cases request with
  | enable other time now =>
    rw [after]
    split
    · rw [enable]
      split
      · exact .inr rfl
      · by_cases zero : condition.interval = 0
        · left
          rw [if_pos zero]
          exact isAllowedInterval_defaultInterval other
        · exact .inr (if_neg zero)
    · exact .inr rfl
  | changeInterval other seconds time =>
    rw [after]
    split
    · exact .inl (And.right ‹_›)
    · exact .inr rfl
  | disable other now =>
    rw [after, disable]
    split
    · split <;> exact .inr rfl
    · exact .inr rfl
  | startAll time | stopAll =>
    rw [after]
    split <;> exact .inr rfl
  | register | step | stepHeedless | shutdown => exact .inr rfl

theorem isPace_after {condition : Condition} (pace : IsPace condition.interval) (name : String)
    (request : Roster.Request) : IsPace (condition.after name request).interval := by
  rcases interval_after name condition request with allowed | same
  · exact .inr allowed
  · rwa [same]

/-- An interval never goes back to zero. -/
theorem interval_after_ne_zero {condition : Condition} (positive : condition.interval ≠ 0)
    (name : String) (request : Roster.Request) : (condition.after name request).interval ≠ 0 := by
  rcases interval_after name condition request with allowed | same
  · exact UInt64.pos_iff_ne_zero.mp (Roster.pos_of_isAllowedInterval allowed)
  · rwa [same]

end Condition

end Collector

/-- Accepted settings give every collector an interval within the limits, or none. -/
theorem Settings.Accepted.isPace_interval {settings : Settings} (accepted : settings.Accepted)
    (name : String) : IsPace (settings.interval name) := by
  rw [interval, Dictionary.find?]
  cases found : settings.intervals.entries.lookup name with
  | none => exact .inr (isAllowedInterval_defaultInterval name)
  | some seconds =>
    obtain ⟨before, after, entries, -⟩ := List.lookup_eq_some_iff.mp found
    have member : (name, seconds) ∈ settings.intervals.entries :=
      entries ▸ List.mem_append_right _ List.mem_cons_self
    exact accepted.intervals _ member

theorem Settings.accepted_of_ofReading {environment : Environment} {path : String}
    {reading : Except FileFault String} {settings : Settings}
    (read : ofReading environment path reading = .ok settings) : settings.Accepted := by
  cases reading with
  | error fault => cases read
  | ok text => exact accepted_of_ofText read

namespace Roster

/-- Whether a request registers, if it registers anything, at the interval that settings give. -/
def Request.Follows (settings : Settings) : Request → Prop
  | .register name _ interval _ => interval = settings.interval name
  | _ => True

/-! ### Collectors -/

/-- All collectors have intervals within the limits, or none. -/
def Paced (roster : Roster) : Prop :=
  ∀ name condition, roster.condition? name = some condition → IsPace condition.interval

namespace Sound

variable {roster : Roster} {handed : List Nat}

theorem paced_perform (sound : roster.Sound handed) (paced : roster.Paced) {settings : Settings}
    (accepted : settings.Accepted) {request : Request} (follows : request.Follows settings) :
    (roster.perform request).1.Paced := by
  intro name condition held
  rw [sound.condition?_perform] at held
  cases request with
  | register other plan interval required =>
    dsimp only at held
    split at held
    · rw [← Option.some.inj held]
      show IsPace interval
      rw [show interval = settings.interval other from follows]
      exact accepted.isPace_interval other
    · exact paced name condition held
  | startAll | stopAll | enable | disable | changeInterval | step | stepHeedless | shutdown =>
    obtain ⟨before, known, rfl⟩ := Option.map_eq_some_iff.mp held
    exact Condition.isPace_after (paced name before known) name _

/-- The interval of a collector that has one is not zero after a request, unless the collector is
registered anew. -/
theorem interval_ne_zero_perform (sound : roster.Sound handed) {name : String} {request : Request}
    (kept : request.replaces name = false)
    (positive : ∃ condition, roster.condition? name = some condition ∧ condition.interval ≠ 0) :
    ∃ condition, (roster.perform request).1.condition? name = some condition ∧
      condition.interval ≠ 0 := by
  obtain ⟨condition, known, notZero⟩ := positive
  refine ⟨condition.after name request, ?_, Condition.interval_after_ne_zero notZero name request⟩
  rw [sound.condition?_perform_of_kept kept, known]
  rfl

/-- A collector that runs has an interval. -/
theorem interval_ne_zero_of_running (sound : roster.Sound handed) {name : String}
    {condition : Condition} (held : roster.condition? name = some condition)
    (running : condition.state = .running) : condition.interval ≠ 0 := by
  obtain ⟨entry, found, rfl⟩ := Option.map_eq_some_iff.mp held
  obtain ⟨task, -, owns⟩ := (sound.kept entry (mem_of_entry?_eq_some found).1).resolve_left
    fun idle => idle.state running
  exact UInt64.pos_iff_ne_zero.mp owns.interval

end Sound

/-! ### Tasks -/

/-- All periods are intervals within the limits, in milliseconds. -/
def Timed (roster : Roster) : Prop :=
  ∀ task ∈ roster.tasks, ∃ seconds, isAllowedInterval seconds = true ∧
    task.period = seconds.toNat * 1000

namespace Sound

variable {roster : Roster} {handed : List Nat}

/-- The interval of a collector that runs is within the limits. -/
theorem isAllowedInterval_of_owns (sound : roster.Sound handed) (paced : roster.Paced)
    {entry : Entry} (member : entry ∈ roster.entries) {task : Task} (owns : entry.Owns task) :
    isAllowedInterval entry.interval = true := by
  have found := (entry?_eq_some_iff sound.distinctNames _ _).mpr ⟨member, rfl⟩
  have held : roster.condition? entry.name = some entry.condition :=
    congrArg (Option.map Entry.condition) found
  exact (paced entry.name entry.condition held).resolve_left
    (UInt64.pos_iff_ne_zero.mp owns.interval)

/-- A task that was just started runs at the interval of the collector that owns it; the periods of
all others have been looked at before. -/
theorem timed_perform (sound : roster.Sound handed) (timed : roster.Timed) (request : Request)
    (paced : (roster.perform request).1.Paced) : (roster.perform request).1.Timed := by
  intro task member
  rcases Renews.perform roster request task member with
    ⟨_, _, _, _, -, rfl⟩ | ⟨earlier, before, -, -, period⟩
  · have later := sound.perform request
    obtain ⟨entry, entryMember, owns⟩ := later.owned _ member rfl
    exact ⟨entry.interval, later.isAllowedInterval_of_owns paced entryMember owns, owns.period⟩
  · rw [← period]
    exact timed earlier before

end Sound

/-! ### Runs -/

theorem paced_and_timed_after {settings : Settings} (accepted : settings.Accepted)
    {requests : List Request} (follow : ∀ request ∈ requests, request.Follows settings) :
    Paced (after requests) ∧ Timed (after requests) := by
  have kept (roster : Roster) (request : Request) (follows : request.Follows settings)
      (invariant : (∃ handed, roster.Sound handed) ∧ roster.Paced ∧ roster.Timed) :
      (∃ handed, (roster.perform request).1.Sound handed) ∧ (roster.perform request).1.Paced ∧
        (roster.perform request).1.Timed := by
    obtain ⟨⟨handed, sound⟩, paced, timed⟩ := invariant
    have pacedAfter := sound.paced_perform paced accepted follows
    exact ⟨⟨_, sound.perform request⟩, pacedAfter, sound.timed_perform timed request pacedAfter⟩
  have paced : Roster.empty.Paced := fun _ _ held => by cases held
  have timed : Roster.empty.Timed := fun _ member => by cases member
  exact (Machine.run_invariant_of_forall perform _ kept ⟨⟨[], Sound.empty⟩, paced, timed⟩ requests
    follow).2

/-- A collector that has an interval keeps one until it is registered anew. -/
theorem interval_ne_zero_after_append {past : List Request} {name : String}
    (positive : ∃ condition, (after past).condition? name = some condition ∧
      condition.interval ≠ 0)
    (future : List Request) (kept : ∀ request ∈ future, request.replaces name = false) :
    ∃ condition, (after (past ++ future)).condition? name = some condition ∧
      condition.interval ≠ 0 := by
  rw [after, Machine.run_append]
  exact (Machine.run_invariant_of_forall perform
    (fun roster => (∃ handed, roster.Sound handed) ∧
      ∃ condition, roster.condition? name = some condition ∧ condition.interval ≠ 0)
    (fun roster request allowed ⟨⟨_, sound⟩, positive⟩ =>
      ⟨⟨_, sound.perform request⟩, sound.interval_ne_zero_perform allowed positive⟩)
    ⟨⟨_, sound_after past⟩, positive⟩ future kept).2

theorem condition_of_status {roster : Roster} {name : String} {report : CollectorStatus}
    (status : roster.status name = .ok report) :
    ∃ condition, roster.condition? name = some condition ∧ report.interval = condition.interval ∧
      report.state = condition.state := by
  obtain ⟨condition, held, -, interval, state, -⟩ := condition?_of_status status
  exact ⟨condition, held, interval, state⟩

/-- Collectors are registered at the intervals that accepted settings give, and controlled in any
way. What is reported of a collector is no interval or one between five seconds and an hour, and
one if it runs; once it has an interval, it keeps one until it is registered anew. The periods of
all tasks that were ever started are such intervals. -/
theorem intervals_within_limits (environment : Environment) (path : String)
    (reading : Except FileFault String) (settings : Settings)
    (read : Settings.ofReading environment path reading = .ok settings) (requests : List Request)
    (follow : ∀ request ∈ requests, request.Follows settings) :
    (∀ name report, (after requests).status name = .ok report →
      (report.interval = 0 ∨ 5 ≤ report.interval ∧ report.interval ≤ 3600) ∧
      (report.state = .running → report.interval ≠ 0)) ∧
    (∀ past future, requests = past ++ future → ∀ name report,
      (after past).status name = .ok report → report.interval ≠ 0 →
      (∀ request ∈ future, request.replaces name = false) →
      ∃ later, (after requests).status name = .ok later ∧ later.interval ≠ 0) ∧
    (∀ task ∈ (after requests).tasks, ∃ seconds : UInt64, 5 ≤ seconds ∧ seconds ≤ 3600 ∧
      task.period = seconds.toNat * 1000) := by
  obtain ⟨paced, timed⟩ := paced_and_timed_after (settings.accepted_of_ofReading read) follow
  refine ⟨fun name report status => ?_, ?_, fun task member => ?_⟩
  · obtain ⟨condition, held, interval, state⟩ := condition_of_status status
    rw [interval, state]
    exact ⟨(paced name condition held).imp_right isAllowedInterval_iff.mp,
      (sound_after requests).interval_ne_zero_of_running held⟩
  · rintro past future rfl name report status positive kept
    obtain ⟨condition, held, interval, -⟩ := condition_of_status status
    obtain ⟨last, heldLater, notZero⟩ :=
      interval_ne_zero_after_append ⟨condition, held, interval ▸ positive⟩ future kept
    obtain ⟨later, laterStatus, -, laterInterval, -⟩ := status_of_condition heldLater
    exact ⟨later, laterStatus, laterInterval ▸ notZero⟩
  · obtain ⟨seconds, allowed, period⟩ := timed task member
    obtain ⟨shortest, longest⟩ := isAllowedInterval_iff.mp allowed
    exact ⟨seconds, shortest, longest, period⟩

/-- A collector that settings disable gets the default interval of its name when it is enabled, and
one that is restarted leaves a task with its old period behind. -/
theorem intervals_of_restart :
    ∃ settings, Settings.ofReading silentEnvironment "agent.json"
        (.ok "\x7b\"intervals\":\x7b\"gpu\":0,\"disk\":3600\x7d\x7d") = .ok settings ∧
      let requests : List Request := [
        .register "gpu" (Plan.ofList []) (settings.interval "gpu") false,
        .register "disk" (Plan.ofList []) (settings.interval "disk") false, .startAll 0,
        .enable "gpu" 0 .epoch, .changeInterval "disk" 5 7, .changeInterval "gpu" 3601 7]
      (∃ report, (after requests).status "gpu" = .ok report ∧ report.interval = 10) ∧
        ((after requests).tasks.map fun task => task.period) = [3600000, 10000, 5000] ∧
        ∀ task ∈ (after requests).tasks, ∃ seconds : UInt64, 5 ≤ seconds ∧ seconds ≤ 3600 ∧
          task.period = seconds.toNat * 1000 := by
  obtain ⟨settings, read, gpu, disk⟩ : ∃ settings,
      Settings.ofReading silentEnvironment "agent.json"
          (.ok "\x7b\"intervals\":\x7b\"gpu\":0,\"disk\":3600\x7d\x7d") = .ok settings ∧
        settings.interval "gpu" = 0 ∧ settings.interval "disk" = 3600 := by
    refine ⟨_, rfl, ?_⟩
    exact ⟨rfl, rfl⟩
  refine ⟨settings, read, ?_⟩
  intro requests
  have follow : ∀ request ∈ requests, request.Follows settings := by
    simp [requests, Request.Follows]
  obtain ⟨-, -, periods⟩ :=
    intervals_within_limits silentEnvironment "agent.json" _ settings read requests follow
  refine ⟨?_, ?_, periods⟩
  · simp only [requests, gpu, disk]
    exact ⟨_, rfl, rfl⟩
  · simp only [requests, gpu, disk]
    rfl

end Roster

end ServerMonitor
