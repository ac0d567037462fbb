/-
This file lets the tasks of the collectors end. Only a task that was told to stop
has a choice between two steps. Once the token above all tasks is cancelled, a task
that cannot take a step is over, however far it had come, and only a collector that
was started since all were stopped is said to run.
-/

import ServerMonitor.Proofs.Collector.Condition
import ServerMonitor.Proofs.Collector.Tasks

namespace ServerMonitor

/-- A task that is over has no pass in progress. -/
theorem Collector.Phase.isActive_of_isOver {phase : Phase} (ended : phase.isOver = true) :
    phase.isActive = false := by
  cases phase with
  | waiting | collecting | hanging => cases ended
  | finished | panicked | dropped => rfl

namespace Roster

open Collector

/-! ### Steps of tasks -/

/-- A task that was not told to stop takes its steps like any other. -/
theorem stepHeedless?_eq_stepTask? {roster : Roster} (goesOn : roster.shutdown = false) {id : Nat}
    {task : Task} (found : roster.task? id = some task) (uncancelled : task.cancelled = false)
    (unaborted : task.aborted = false) (bus : Bus Payload) (time : Nat) (now : Instant) :
    roster.stepHeedless? bus id time now = roster.stepTask? bus id time now := by
  have same (next : Pass) : task.stepHeedless? time next = task.step? time false next := by
    obtain ⟨_, _, _, _, _, _⟩ := task
    cases uncancelled
    cases unaborted
    rw [Task.stepHeedless?]
    cases taken : Task.step? _ time false next with
    | none => rfl
    | some result =>
      obtain ⟨moved, event⟩ := result
      obtain ⟨phase, rfl, -⟩ := move_of_step? taken
      rfl
  cases held : roster.registrations[task.registration]? with
  | none => simp [stepHeedless?, stepTask?, takeStep?, found, held]
  | some registration =>
    rw [stepTask?_eq found held, stepHeedless?, takeStep?_eq found held, same, goesOn]

/-- A step publishes at most one payload. -/
theorem bus_stepped (roster : Roster) (bus : Bus Payload) (task : Task) (now : Instant)
    (event : Task.Event) :
    (roster.stepped bus task now event).2 = bus ∨
      ∃ topic payload, (roster.stepped bus task now event).2 = (bus.publish topic payload).1 := by
  have published (pass : Pass) : publish bus pass = bus ∨
      ∃ topic payload, publish bus pass = (bus.publish topic payload).1 := by
    unfold publish
    split
    · exact .inr ⟨_, _, rfl⟩
    · exact .inl rfl
  cases event with
  | quiet | began => exact .inl rfl
  | ended pass | stuck pass => exact published pass

/-! ### Registrations of tasks -/

/-- Whether all that a roster refers to is there. -/
structure Accounted (roster : Roster) : Prop where
  sound : ∃ handed, roster.Sound handed
  latest : ∀ entry ∈ roster.entries, IsLatest roster.registered entry.name entry.registration
  known : ∀ task ∈ roster.tasks, task.registration < roster.registered.length

theorem IsLatest.lt_length {registered : List (String × Plan)} {name : String} {index : Nat}
    (latest : IsLatest registered name index) : index < registered.length := by
  obtain ⟨entry, found, -⟩ := Option.map_eq_some_iff.mp latest.named
  exact (List.getElem?_eq_some_iff.mp found).1

namespace Accounted

variable {roster : Roster}

theorem empty : Roster.empty.Accounted where
  sound := ⟨[], Sound.empty⟩
  latest := List.forall_mem_nil _
  known := List.forall_mem_nil _

theorem perform (accounted : roster.Accounted) (request : Request) :
    (roster.perform request).1.Accounted := by
  obtain ⟨handed, sound⟩ := accounted.sound
  have later := sound.perform request
  have latest := sound.latest_perform request accounted.latest
  refine ⟨⟨_, later⟩, latest, fun task member => ?_⟩
  rcases Renews.perform roster request task member with
    ⟨_, _, _, _, -, rfl⟩ | ⟨earlier, before, -, same, -⟩
  · -- A task that was just started runs the registration of the entry that owns it.
    obtain ⟨entry, entryMember, owns⟩ := later.owned _ member rfl
    exact owns.registration ▸ (latest entry entryMember).lt_length
  · rw [← same, sound.registered_perform, List.length_append]
    exact Nat.lt_add_right _ (accounted.known earlier before)

theorem exists_registration (accounted : roster.Accounted) {task : Task}
    (member : task ∈ roster.tasks) :
    ∃ registration, roster.registrations[task.registration]? = some registration := by
  have known := accounted.known task member
  rw [registered, List.length_map] at known
  exact ⟨_, List.getElem?_eq_getElem known⟩

/-- Whoever aborts a task cancels it as well. -/
theorem unaborted (accounted : roster.Accounted) {task : Task} (member : task ∈ roster.tasks)
    (uncancelled : task.cancelled = false) : task.aborted = false := by
  obtain ⟨handed, sound⟩ := accounted.sound
  obtain ⟨entry, -, owns⟩ := sound.owned task member uncancelled
  exact owns.unaborted

/-- No task waits forever once the token above all tasks is cancelled. -/
theorem isOver_of_rest (accounted : roster.Accounted) (shutdown : roster.shutdown = true)
    {bus : Bus Payload} {time : Nat} {now : Instant}
    (rest : ∀ task ∈ roster.tasks, roster.stepTask? bus task.id time now = none) :
    ∀ task ∈ roster.tasks, task.phase.isOver = true := by
  intro task member
  obtain ⟨handed, sound⟩ := accounted.sound
  obtain ⟨registration, held⟩ := accounted.exists_registration member
  have waits := rest task member
  rw [stepTask?_eq (sound.task?_of_mem member) held, shutdown, Option.map_eq_none_iff] at waits
  by_contra goes
  rw [Task.step?, if_neg goes, Bool.or_true] at waits
  cases aborted : task.aborted with
  | true =>
    rw [aborted] at waits
    cases waits
  | false =>
    rw [aborted] at waits
    cases waits

end Accounted

/-! ### Collectors that are said to run -/

/-- Whether a request starts the collector of a name, if it can be started. -/
def Request.starts (name : String) : Request → Bool
  | .startAll _ => true
  | .enable other _ _ => other = name
  | _ => false

/-- Whether the collector of a name is said to run. -/
def Runs (roster : Roster) (name : String) : Prop :=
  ∃ condition, roster.condition? name = some condition ∧ condition.state = .running

theorem runs_of_status {roster : Roster} {name : String} {report : CollectorStatus}
    (status : roster.status name = .ok report) (running : report.state = .running) :
    roster.Runs name := by
  obtain ⟨condition, held, -, -, state, -⟩ := condition?_of_status status
  exact ⟨condition, held, state ▸ running⟩

theorem Sound.not_runs_stopAll {roster : Roster} {handed : List Nat} (sound : roster.Sound handed)
    (name : String) : ¬roster.stopAll.1.Runs name := by
  rintro ⟨condition, held, running⟩
  rw [sound.condition?_stopAll] at held
  obtain ⟨before, -, rfl⟩ := Option.map_eq_some_iff.mp held
  rw [Condition.after] at running
  split at running
  · cases running
  · rename_i idle
    exact idle running

/-- A collector that runs did so before or was started. -/
theorem Sound.runs_of_perform {roster : Roster} {handed : List Nat} (sound : roster.Sound handed)
    {request : Request} {name : String} (runs : (roster.perform request).1.Runs name) :
    roster.Runs name ∨ request.starts name = true := by
  obtain ⟨condition, held, running⟩ := runs
  rw [sound.condition?_perform] at held
  cases starts : request.starts name with
  | true => exact .inr rfl
  | false =>
    refine .inl ?_
    cases request with
    | register other plan interval required =>
      dsimp only at held
      split at held
      · cases held
        rw [Condition.fresh] at running
        dsimp only at running
        split at running <;> cases running
      · exact ⟨condition, held, running⟩
    | startAll time => cases starts
    | enable other time now =>
      obtain ⟨before, found, rfl⟩ := Option.map_eq_some_iff.mp held
      rw [Condition.after, if_neg (of_decide_eq_false starts)] at running
      exact ⟨before, found, running⟩
    | stopAll =>
      obtain ⟨before, found, rfl⟩ := Option.map_eq_some_iff.mp held
      rw [Condition.after] at running
      split at running
      · cases running
      · exact ⟨before, found, running⟩
    | disable other now =>
      obtain ⟨before, found, rfl⟩ := Option.map_eq_some_iff.mp held
      rw [Condition.after, Condition.disable] at running
      split at running
      · split at running
        · exact ⟨before, found, running⟩
        · cases running
      · exact ⟨before, found, running⟩
    | changeInterval other seconds time =>
      obtain ⟨before, found, rfl⟩ := Option.map_eq_some_iff.mp held
      rw [Condition.after] at running
      split at running <;> exact ⟨before, found, running⟩
    | step | stepHeedless | shutdown =>
      obtain ⟨before, found, rfl⟩ := Option.map_eq_some_iff.mp held
      exact ⟨before, found, running⟩

end Roster

end ServerMonitor
