/-
This file states when the passes of a collector begin that is left alone and served
in time. A pass begins a period after the one before it began, or when that one ends,
whichever is later; so how long the passes take is all that matters. A task knows
only when its next tick is due, and a tick that is taken late puts off the next one:
what is due and what the clock shows determine together when the next pass begins.
-/

import ServerMonitor.Proofs.Collector.Ending

namespace ServerMonitor.Collector

/-! ### Timetables -/

/-- When the pass begins that follows one that began at a time and takes so long. -/
def following (period start duration : Nat) : Nat := max (start + period) (start + duration)

/-- When the pass begins that follows passes that take so long, the first of which began at a
time. -/
def nextStart (period start : Nat) (durations : List Nat) : Nat :=
  durations.foldl (following period) start

/-- When passes begin that take so long. -/
def timetable (period start : Nat) : List Nat → List Nat
  | [] => []
  | duration :: rest => start :: timetable period (following period start duration) rest

theorem timetable_concat (period start : Nat) (durations : List Nat) (duration : Nat) :
    timetable period start (durations ++ [duration]) =
      timetable period start durations ++ [nextStart period start durations] := by
  induction durations generalizing start with
  | nil => rfl
  | cons first rest inductionHypothesis =>
    exact congrArg (start :: ·) (inductionHypothesis (following period start first))

theorem getElem?_timetable (period start : Nat) (durations : List Nat) (number : Nat) :
    (timetable period start durations)[number]? =
      (durations[number]?).map fun _ => nextStart period start (durations.take number) := by
  induction durations generalizing start number with
  | nil => rfl
  | cons first rest inductionHypothesis =>
    cases number with
    | zero => rfl
    | succ number => exact inductionHypothesis (following period start first) number

theorem nextStart_append (period start : Nat) (first second : List Nat) :
    nextStart period start (first ++ second) =
      nextStart period (nextStart period start first) second :=
  List.foldl_append

/-- Passes never catch up: so many of them take at least so many periods. -/
theorem le_nextStart (period start : Nat) (durations : List Nat) :
    start + durations.length * period ≤ nextStart period start durations := by
  induction durations generalizing start with
  | nil => simp [nextStart]
  | cons first rest inductionHypothesis =>
    have step : start + period ≤ following period start first := Nat.le_max_left _ _
    have later := inductionHypothesis (following period start first)
    show start + (rest.length + 1) * period ≤ nextStart period (following period start first) rest
    rw [Nat.succ_mul]
    omega

/-! ### Rounds -/

/-- A pass that began. -/
structure Round where
  start : Nat
  pass : Pass

namespace Round

def duration (round : Round) : Nat := round.pass.delay

/-- When the pass ends. -/
def finish (round : Round) : Nat := round.start + round.duration

end Round

namespace Phase

/-- The pass that begins at a time at which a task goes from one phase to another. -/
def begun? (time : Nat) : Phase → Phase → Option Round
  | .waiting _, .collecting pass _ _ => some ⟨time, pass⟩
  | _, _ => none

/-- The time, if a pass ends at which the task waits for another tick. -/
def ended? (time : Nat) : Phase → Phase → Option Nat
  | .collecting _ _ _, .waiting _ => some time
  | _, _ => none

theorem begun?_self (time : Nat) (phase : Phase) : begun? time phase phase = none := by
  cases phase <;> rfl

theorem ended?_self (time : Nat) (phase : Phase) : ended? time phase phase = none := by
  cases phase <;> rfl

end Phase

section

variable {period start : Nat} {rounds : List Round}
  (timed : rounds.map (·.start) = timetable period start (rounds.map (·.duration)))

include timed

theorem start_of_timed {number : Nat} {round : Round} (begun : rounds[number]? = some round) :
    round.start = nextStart period start ((rounds.take number).map (·.duration)) := by
  have listed : (rounds.map (·.start))[number]? = _ := congrArg (·[number]?) timed
  rw [List.getElem?_map, getElem?_timetable, List.getElem?_map, begun, ← List.map_take] at listed
  exact Option.some.inj listed

/-- A pass begins a period after the one before, or when that one ends. -/
theorem start_succ_of_timed {number : Nat} {round next : Round}
    (begun : rounds[number]? = some round) (begunNext : rounds[number + 1]? = some next) :
    next.start = max (round.start + period) round.finish := by
  rw [start_of_timed timed begunNext, List.take_add_one, begun, List.map_append, nextStart_append,
    ← start_of_timed timed begun]
  rfl

/-- So many passes later at least so many periods have gone by. -/
theorem apart_of_timed {number steps : Nat} {first second : Round}
    (begun : rounds[number]? = some first) (begunLater : rounds[number + steps]? = some second) :
    first.start + steps * period ≤ second.start := by
  have known : number + steps < rounds.length := (List.getElem?_eq_some_iff.mp begunLater).1
  have apart := le_nextStart period first.start
    (((rounds.drop number).take steps).map (·.duration))
  rw [List.length_map, List.length_take, List.length_drop, Nat.min_eq_left (by omega)] at apart
  rw [start_of_timed timed begunLater, List.take_add, List.map_append, nextStart_append,
    ← start_of_timed timed begun]
  exact apart

end

/-! ### Ticks -/

/-- When the tick is due that follows one that was due and is taken. A tick that is taken on time is
followed by one that is due a period later, a late one by one that is due a period after it was
taken; no tick makes up for one that was missed. -/
def deadlineAfter (period due now : Nat) : Nat := if due < now then now + period else due + period

theorem deadlineAfter_of_le {due now : Nat} (ripe : due ≤ now) (period : Nat) :
    deadlineAfter period due now = now + period := by
  unfold deadlineAfter
  split <;> omega

namespace Task

variable {task : Task} (uncancelled : task.cancelled = false) (unaborted : task.aborted = false)

include uncancelled unaborted

/-- A task that waits takes a tick that is due. -/
theorem step?_of_waiting {due : Nat} (waits : task.phase = .waiting due) (now : Nat) (next : Pass) :
    task.step? now false next =
      if due ≤ now then
        some ({ task with
          phase := .collecting next (now + next.delay) (deadlineAfter task.period due now) }, .began)
      else none := by
  rw [step?, uncancelled, unaborted, waits]
  by_cases ripe : due ≤ now
  · simp [Phase.isOver, ripe, deadlineAfter_of_le]
  · simp [Phase.isOver, ripe]

theorem step?_of_collecting {pass : Pass} {ends due : Nat}
    (collects : task.phase = .collecting pass ends due) (now : Nat) (next : Pass) :
    task.step? now false next = if ends ≤ now then some (task.endPass pass due) else none := by
  rw [step?, uncancelled, unaborted, collects]
  simp [Phase.isOver]

end Task

/-! ### Tasks that are served in time -/

/-- When a task is to begin or to end a pass next, after rounds of which some have ended. -/
def upcoming (period start : Nat) (rounds : List Round) (ends : List Nat) : Nat :=
  if ends.length = rounds.length then nextStart period start (rounds.map (·.duration))
  else (rounds.getLast?.map (·.finish)).getD start

/-- How far a task has come that began its passes on time and is not overdue: in a phase, after
rounds of which some have ended. -/
inductive OnTime (period start now : Nat) : Phase → List Round → List Nat → Prop
  | waiting {due : Nat} {rounds : List Round}
    (timed : rounds.map (·.start) = timetable period start (rounds.map (·.duration)))
    (next : nextStart period start (rounds.map (·.duration)) = max due now) :
    OnTime period start now (.waiting due) rounds (rounds.map (·.finish))
  | collecting {earlier : List Round} (round : Round)
    (timed : earlier.map (·.start) = timetable period start (earlier.map (·.duration)))
    (begun : round.start = nextStart period start (earlier.map (·.duration)))
    (early : now ≤ round.finish) :
    OnTime period start now (.collecting round.pass round.finish (round.start + period))
      (earlier ++ [round]) (earlier.map (·.finish))

/-- The first tick is due at once. -/
theorem OnTime.fresh (period now : Nat) : OnTime period now now (.waiting now) [] [] :=
  .waiting rfl (Nat.max_self now).symm

namespace OnTime

variable {period start now : Nat} {task : Task} {rounds : List Round} {ends : List Nat}

theorem timed {phase : Phase} (onTime : OnTime period start now phase rounds ends) :
    rounds.map (·.start) = timetable period start (rounds.map (·.duration)) := by
  cases onTime with
  | waiting timed next => exact timed
  | collecting round timed begun early =>
    rw [List.map_append, List.map_append, timed, List.map_singleton, List.map_singleton,
      timetable_concat, begun]

/-- At most one pass is in progress; all others ended when they were to. -/
theorem ended {phase : Phase} (onTime : OnTime period start now phase rounds ends) :
    ends = (rounds.map (·.finish)).take ends.length ∧ ends.length ≤ rounds.length ∧
      rounds.length ≤ ends.length + 1 := by
  cases onTime with
  | waiting timed next =>
    rw [List.length_map, ← List.length_map (fun round : Round => round.finish), List.take_length,
      List.length_map]
    exact ⟨rfl, Nat.le_refl _, Nat.le_succ _⟩
  | collecting round timed begun early => simp

/-- The task is not overdue, and can take a step when the time has come. -/
theorem step_iff (onTime : OnTime period start now task.phase rounds ends)
    (uncancelled : task.cancelled = false) (unaborted : task.aborted = false) (next : Pass) :
    now ≤ upcoming period start rounds ends ∧
      ((task.step? now false next).isSome = true ↔ now = upcoming period start rounds ends) := by
  generalize phase : task.phase = current at onTime
  cases onTime with
  | @waiting due _ timed soon =>
    rw [Task.step?_of_waiting uncancelled unaborted phase, upcoming, if_pos (List.length_map _),
      soon]
    refine ⟨Nat.le_max_right _ _, ?_⟩
    split
    · rename_i ripe
      exact iff_of_true rfl (Nat.max_eq_right ripe).symm
    · exact iff_of_false Bool.false_ne_true (by omega)
  | @collecting earlier round timed begun early =>
    rw [Task.step?_of_collecting uncancelled unaborted phase, upcoming, if_neg (by simp),
      List.getLast?_concat]
    refine ⟨early, ?_⟩
    split
    · rename_i past
      exact iff_of_true rfl (Nat.le_antisymm early past)
    · rename_i busy
      exact iff_of_false Bool.false_ne_true fun same => busy (Nat.le_of_eq same.symm)

/-- Time may pass until the task is to do something. -/
theorem elapse (onTime : OnTime period start now task.phase rounds ends) {milliseconds : Nat}
    (spares : ∀ time, task.wakesAt? = some time → now + milliseconds ≤ max time now) :
    OnTime period start (now + milliseconds) task.phase rounds ends := by
  generalize phase : task.phase = current at onTime
  unfold Task.wakesAt? at spares
  cases onTime with
  | @waiting due _ timed next =>
    rw [phase] at spares
    have untilDue := spares due rfl
    exact .waiting timed (by omega)
  | @collecting _ round timed begun early =>
    rw [phase] at spares
    have untilFinish := spares round.finish rfl
    exact .collecting round timed begun (by omega)

/-- A step begins or ends a pass in time. -/
theorem step (onTime : OnTime period start now task.phase rounds ends)
    (periodic : task.period = period) (uncancelled : task.cancelled = false)
    (unaborted : task.aborted = false)
    (complete : ∀ round ∈ rounds, round.pass.ending = .success ∨ round.pass.ending = .failure)
    {next : Pass} {moved : Task} {event : Task.Event}
    (step : task.step? now false next = some (moved, event)) :
    OnTime period start now moved.phase
      (rounds ++ (Phase.begun? now task.phase moved.phase).toList)
      (ends ++ (Phase.ended? now task.phase moved.phase).toList) := by
  have timedBefore := onTime.timed
  generalize phase : task.phase = current at onTime
  cases onTime with
  | @waiting due _ timed soon =>
    rw [Task.step?_of_waiting uncancelled unaborted phase] at step
    split at step
    · rename_i ripe
      cases step
      rw [deadlineAfter_of_le ripe, periodic]
      simp only [Phase.begun?, Phase.ended?, Option.toList_some, Option.toList_none,
        List.append_nil]
      refine .collecting ⟨now, next⟩ timed ?_ (Nat.le_add_right _ _)
      exact (Nat.max_eq_right ripe).symm.trans soon.symm
    · cases step
  | @collecting earlier round timed begun early =>
    rw [Task.step?_of_collecting uncancelled unaborted phase] at step
    split at step
    · rename_i past
      have moment : round.finish = now := Nat.le_antisymm past early
      have waits : moved.phase = .waiting (round.start + period) := by
        unfold Task.endPass at step
        rcases complete round (List.mem_append_right _ List.mem_cons_self) with ending | ending
        · rw [ending] at step
          cases step
          rfl
        · rw [ending] at step
          cases step
          rfl
      rw [waits]
      simp only [Phase.begun?, Phase.ended?, Option.toList_some, Option.toList_none,
        List.append_nil]
      have ended : earlier.map (·.finish) ++ [now] = (earlier ++ [round]).map (·.finish) := by
        rw [List.map_append, List.map_singleton, moment]
      rw [ended]
      refine .waiting timedBefore ?_
      rw [List.map_append, nextStart_append, ← begun]
      show max (round.start + period) round.finish = _
      rw [moment]
    · cases step

end OnTime

end ServerMonitor.Collector

namespace ServerMonitor.Roster

open Collector

/-! ### One task of many -/

/-- Whether a task is there as it was, unless it was told to stop. -/
def Retains (task : Task) (roster : Roster) : Prop :=
  ∃ cancelled aborted, { task with cancelled, aborted } ∈ roster.tasks

theorem retains_of_mem {roster : Roster} {task : Task} (member : task ∈ roster.tasks) :
    Retains task roster :=
  ⟨task.cancelled, task.aborted, member⟩

theorem stable_retains (task : Task) : Stable (Retains task) where
  setEntry _ _ retains := retains
  marks _ _ marks := by
    rintro ⟨cancelled, aborted, member⟩
    obtain ⟨change, tasks, same⟩ := marks.tasks
    obtain ⟨told, dropped, changed, -⟩ := same { task with cancelled, aborted }
    refine ⟨told, dropped, ?_⟩
    rw [tasks, ← changed]
    exact List.mem_map_of_mem member
  start _ _ _ := by
    rintro ⟨cancelled, aborted, member⟩
    exact ⟨cancelled, aborted, List.mem_append_left _ member⟩
  added _ _ retains := retains
  shutdown _ retains := retains

theorem tasks_stepped (roster : Roster) (bus : Bus Payload) (task : Task) (now : Instant)
    (event : Task.Event) :
    (roster.stepped bus task now event).1.tasks =
      roster.tasks.map fun other => if other.id = task.id then task else other := by
  cases event <;> rfl

/-- A step of another task leaves a task as it is. -/
theorem mem_stepped {roster : Roster} {task : Task} (member : task ∈ roster.tasks) (other : Task)
    (different : task.id ≠ other.id) (bus : Bus Payload) (now : Instant) (event : Task.Event) :
    task ∈ (roster.stepped bus other now event).1.tasks := by
  rw [tasks_stepped]
  exact List.mem_map.mpr ⟨task, member, if_neg different⟩

/-- When a task takes a step, that is what it does; when another does, it stays as it is. -/
theorem Accounted.stays_or_steps {roster : Roster} (accounted : roster.Accounted) {task : Task}
    (member : task ∈ roster.tasks) (uncancelled : task.cancelled = false) {bus : Bus Payload}
    {id time : Nat} {now : Instant} {result : Roster × Bus Payload}
    (step : roster.stepTask? bus id time now = some result ∨
      roster.shutdown = false ∧ roster.stepHeedless? bus id time now = some result) :
    task ∈ result.1.tasks ∨ ∃ next moved event,
      task.step? time roster.shutdown next = some (moved, event) ∧ moved ∈ result.1.tasks := by
  obtain ⟨handed, sound⟩ := accounted.sound
  by_cases own : task.id = id
  · subst own
    have found := sound.task?_of_mem member
    have steps : roster.stepTask? bus task.id time now = some result := by
      rcases step with step | ⟨goesOn, step⟩
      · exact step
      · rwa [stepHeedless?_eq_stepTask? goesOn found uncancelled
          (accounted.unaborted member uncancelled)] at step
    obtain ⟨registration, held⟩ := accounted.exists_registration member
    rw [stepTask?_eq found held] at steps
    obtain ⟨⟨moved, event⟩, taken, rfl⟩ := Option.map_eq_some_iff.mp steps
    refine .inr ⟨_, moved, event, taken, ?_⟩
    obtain ⟨phase, rfl, -⟩ := move_of_step? taken
    rw [tasks_stepped]
    exact List.mem_map.mpr ⟨task, member, if_pos rfl⟩
  · have stepped : roster.Stepped bus id now result :=
      step.elim stepped_of_stepTask? fun heedless => stepped_of_stepHeedless? heedless.2
    obtain ⟨other, phase, event, -, rfl, -, rfl⟩ := stepped
    exact .inl (mem_stepped member { other with phase } own bus now event)

end ServerMonitor.Roster
