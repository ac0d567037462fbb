/-
This file states when a running agent makes the passes of a collector. A task is
started at some time and left alone until it is told to stop; whatever else goes on,
only its own steps and the passing of time concern it. If no time passes while the
task could do something, its passes begin and end at the times of the timetable, and
it is always known when it can take its next step.
-/

import ServerMonitor.Proofs.Agent.Shutdown
import ServerMonitor.Proofs.Collector.Schedule

namespace ServerMonitor.Agent

open Collector

/-! ### Time -/

/-- The milliseconds that pass in a turn. -/
def Turn.duration : Turn → Nat
  | .operate (.elapse milliseconds) => milliseconds
  | _ => 0

theorem time_act (agent : Agent) (action : Action) :
    (agent.act action).1.time = agent.time := by
  cases action with
  | ask request => rw [act]; split <;> rfl
  | feed feeder =>
    cases feeder with
    | cache => rw [act_feed_cache]
    | broadcast => rw [act_feed_broadcast]
  | fanOut => rw [act_fanOut]
  | attend request => rw [act]; split <;> rfl
  | tick clock | cancelHub | cancel => rfl

theorem time_proceed (agent : Agent) (turn : Turn) :
    (agent.proceed turn).1.time = agent.time + turn.duration := by
  cases turn with
  | operate operation =>
    cases operation with
    | enable name | disable name =>
      refine settle_of (·.time = agent.time) rfl ?_
      rintro ⟨roster, _ | event⟩ <;> rfl
    | changeInterval name seconds =>
      exact settle_of (·.time = agent.time) rfl fun roster => rfl
    | collect task =>
      show ((agent.stepCollector? task).getD agent).time = agent.time
      rw [stepCollector?]
      cases agent.roster.stepTask? agent.bus task agent.time agent.clock.instant <;> rfl
    | elapse milliseconds => rfl
    | act action => exact agent.time_act action
  | collectHeedless | serve => rw [proceed]; split <;> rfl
  | feedHeedless feeder => exact time_act { agent with cancelled := false } (.feed feeder)
  | register | startCollectors | stopCollectors | connect | surround | broadcast |
    readNetworkServices | readParityHistory => rfl

/-! ### Tasks that are started -/

theorem Turn.Requests.time_eq {agent : Agent} {turn : Turn} {request : Roster.Request}
    (asks : turn.Requests agent request) {time : Nat} (starts : request.startsAt? = some time) :
    time = (agent.proceed turn).1.time := by
  rw [time_proceed]
  cases asks with
  | startAll | enable | changeInterval => exact (Option.some.inj starts).symm
  | _ => cases starts

/-- A task that was not there before a turn has been started in it, and its first tick is due. -/
theorem eq_start_of_new {agent : Agent} {turn : Turn} {id : Nat}
    (absent : agent.roster.task? id = none) {task : Task}
    (found : (agent.proceed turn).1.roster.task? id = some task) :
    task = Task.start id task.registration task.period (agent.proceed turn).1.time := by
  have member := List.mem_of_find?_eq_some found
  obtain rfl : task.id = id := by simpa using List.find?_some found
  have new : ∀ earlier ∈ agent.roster.tasks, earlier.id ≠ task.id := by
    simpa using List.find?_eq_none.mp absent
  rw [agent.roster_proceed] at member
  cases asks : agent.request? turn with
  | none =>
    rw [asks] at member
    exact absurd rfl (new task member)
  | some request =>
    rw [asks] at member
    rcases Roster.Renews.perform agent.roster request task member with
      ⟨_, _, _, _, starts, rfl⟩ | ⟨earlier, before, same, -⟩
    · rw [(requests_of_request? asks).time_eq starts]
      rfl
    · exact absurd same (new earlier before)

/-! ### Tasks that nobody tells to stop -/

/-- Whether neither a task nor all tasks have been told to stop. -/
structure Unstopped (agent : Agent) (id : Nat) : Prop where
  roster : agent.roster.shutdown = false
  task : ∀ task ∈ agent.roster.tasks, task.id = id → task.cancelled = false

/-- No turn forgets a task. -/
theorem tasks_proceed {agent : Agent} (accounted : agent.roster.Accounted) (turn : Turn) :
    ∀ task ∈ agent.roster.tasks, ∃ later ∈ (agent.proceed turn).1.roster.tasks,
      later.id = task.id ∧ later.registration = task.registration ∧ later.period = task.period ∧
        (task.cancelled = true → later.cancelled = true) := by
  obtain ⟨handed, sound⟩ := accounted.sound
  rw [agent.roster_proceed]
  cases agent.request? turn with
  | none => exact (Roster.Continues.refl agent.roster).tasks
  | some request => exact sound.tasks_perform request

/-- Nobody takes back that a task was told to stop. -/
theorem Unstopped.of_proceed {agent : Agent} (accounted : agent.roster.Accounted) {turn : Turn}
    {id : Nat} (unstopped : (agent.proceed turn).1.Unstopped id) : agent.Unstopped id where
  roster := by
    refine Bool.eq_false_iff.mpr fun shutdown => ?_
    have still : (agent.proceed turn).1.roster.shutdown = true :=
      roster_kept (·.shutdown = true) shutdown (persistent_shutdown.perform · shutdown) turn
    cases still.symm.trans unstopped.roster
  task task member own := by
    refine Bool.eq_false_iff.mpr fun cancelled => ?_
    obtain ⟨later, laterMember, same, -, -, still⟩ := tasks_proceed accounted turn task member
    cases (still cancelled).symm.trans (unstopped.task later laterMember (same.trans own))

/-- A turn is a step of a task, and then takes no time, or leaves the task as it is. -/
theorem retains_or_steps {agent : Agent} (accounted : agent.roster.Accounted) {task : Task}
    (unstopped : agent.Unstopped task.id) (member : task ∈ agent.roster.tasks) (turn : Turn) :
    Roster.Retains task (agent.proceed turn).1.roster ∨
      turn.duration = 0 ∧ ∃ next moved event,
        task.step? agent.time false next = some (moved, event) ∧
          moved ∈ (agent.proceed turn).1.roster.tasks := by
  have uncancelled := unstopped.task task member rfl
  have stays := Roster.retains_of_mem member
  rw [agent.roster_proceed]
  cases asks : agent.request? turn with
  | none => exact .inl stays
  | some request =>
    have others (other : request.isStep = false) :
        Roster.Retains task (agent.roster.perform request).1 :=
      (Roster.stable_retains task).perform other stays
    have steps {result : Roster × Bus Payload} {id : Nat}
        (step : agent.roster.stepTask? agent.bus id agent.time agent.clock.instant = some result ∨
          agent.roster.stepHeedless? agent.bus id agent.time agent.clock.instant = some result) :
        Roster.Retains task result.1 ∨ ∃ next moved event,
          task.step? agent.time false next = some (moved, event) ∧ moved ∈ result.1.tasks := by
      have taken := accounted.stays_or_steps member uncancelled
        (step.imp_right fun step => ⟨unstopped.roster, step⟩)
      rw [unstopped.roster] at taken
      exact taken.imp_left Roster.retains_of_mem
    cases requests_of_request? asks with
    | step id =>
      rw [Option.elim_some, Roster.perform]
      cases step : agent.roster.stepTask? agent.bus id agent.time agent.clock.instant with
      | none => exact .inl stays
      | some result => exact (steps (.inl step)).imp_right fun taken => ⟨rfl, taken⟩
    | stepHeedless id =>
      rw [Option.elim_some, Roster.perform]
      cases step : agent.roster.stepHeedless? agent.bus id agent.time agent.clock.instant with
      | none => exact .inl stays
      | some result => exact (steps (.inr step)).imp_right fun taken => ⟨rfl, taken⟩
    | _ => exact .inl (others rfl)

/-! ### What is seen of a task -/

/-- The phases of a task before and after a turn. -/
def phases? (id : Nat) (agent : Agent) (turn : Turn) : Option (Phase × Phase) := do
  let before ← agent.roster.task? id
  let after ← (agent.proceed turn).1.roster.task? id
  return (before.phase, after.phase)

/-- The pass that a task begins in a turn. -/
def begun? (id : Nat) (agent : Agent) (turn : Turn) : Option Round :=
  (agent.phases? id turn).bind fun (before, after) => Phase.begun? agent.time before after

/-- The time, if a task ends a pass in a turn and goes on. -/
def ended? (id : Nat) (agent : Agent) (turn : Turn) : Option Nat :=
  (agent.phases? id turn).bind fun (before, after) => Phase.ended? agent.time before after

/-- The passes that a task begins. -/
def rounds (id : Nat) (agent : Agent) (turns : List Turn) : List Round :=
  Machine.log proceed (fun agent turn => (agent.begun? id turn).toList) agent turns

/-- The times at which a task ends its passes. -/
def ends (id : Nat) (agent : Agent) (turns : List Turn) : List Nat :=
  Machine.log proceed (fun agent turn => (agent.ended? id turn).toList) agent turns

/-- Whether time passes in a turn beyond the time at which a task is to do something. -/
def isLate (id : Nat) (agent : Agent) (turn : Turn) : Bool :=
  ((agent.roster.task? id).bind (·.wakesAt?)).any fun time =>
    max time agent.time < agent.time + turn.duration

/-- The times since which a task was kept waiting that was to do something. -/
def delays (id : Nat) (agent : Agent) (turns : List Turn) : List Nat :=
  Machine.log proceed (fun agent turn => if agent.isLate id turn then [agent.time] else [])
    agent turns

/-! ### Tasks that are served in time -/

/-- A turn that is not late keeps a task on time. -/
theorem onTime_proceed {agent : Agent} (orderly : agent.Orderly) {id : Nat} {task : Task}
    (found : agent.roster.task? id = some task) {start : Nat} {rounds : List Round}
    {ends : List Nat} (onTime : OnTime task.period start agent.time task.phase rounds ends)
    (complete : ∀ round ∈ rounds, round.pass.ending = .success ∨ round.pass.ending = .failure)
    {turn : Turn} (unstopped : (agent.proceed turn).1.Unstopped id)
    (prompt : agent.isLate id turn = false) :
    ∃ later, (agent.proceed turn).1.roster.task? id = some later ∧ later.period = task.period ∧
      OnTime task.period start (agent.proceed turn).1.time later.phase
        (rounds ++ (agent.begun? id turn).toList) (ends ++ (agent.ended? id turn).toList) := by
  obtain ⟨handed, sound⟩ := (orderly.proceed turn).roster.sound
  have member := List.mem_of_find?_eq_some found
  obtain rfl : task.id = id := by simpa using List.find?_some found
  have goesOn := unstopped.of_proceed orderly.roster
  have uncancelled := goesOn.task task member rfl
  have seen {later : Task}
      (foundLater : (agent.proceed turn).1.roster.task? task.id = some later) :
      agent.begun? task.id turn = Phase.begun? agent.time task.phase later.phase ∧
        agent.ended? task.id turn = Phase.ended? agent.time task.phase later.phase := by
    rw [begun?, ended?, phases?, found, Option.bind_eq_bind, Option.bind_some, foundLater]
    exact ⟨rfl, rfl⟩
  rw [time_proceed]
  rcases retains_or_steps orderly.roster goesOn member turn with
    ⟨cancelled, aborted, memberLater⟩ | ⟨instant, next, moved, event, step, memberLater⟩
  · have foundLater := sound.task?_of_mem memberLater
    refine ⟨_, foundLater, rfl, ?_⟩
    rw [(seen foundLater).1, (seen foundLater).2, Phase.begun?_self, Phase.ended?_self,
      Option.toList_none, List.append_nil, Option.toList_none, List.append_nil]
    refine onTime.elapse fun time wakes => ?_
    rw [isLate, found, Option.bind_some, wakes] at prompt
    exact Nat.le_of_not_lt (of_decide_eq_false prompt)
  · obtain ⟨phase, rfl, -⟩ := Roster.move_of_step? step
    have foundLater := sound.task?_of_mem memberLater
    refine ⟨_, foundLater, rfl, ?_⟩
    rw [(seen foundLater).1, (seen foundLater).2, instant]
    exact onTime.step rfl uncancelled (orderly.roster.unaborted member uncancelled) complete step

section

variable {agent : Agent} (orderly : agent.Orderly) {id registration period : Nat}
  (started : agent.roster.task? id = some (Task.start id registration period agent.time))

include orderly started

theorem onTime_course {turns : List Turn} (unstopped : (agent.course turns).Unstopped id)
    (prompt : agent.delays id turns = [])
    (complete : ∀ round ∈ agent.rounds id turns,
      round.pass.ending = .success ∨ round.pass.ending = .failure) :
    ∃ task, (agent.course turns).roster.task? id = some task ∧ task.period = period ∧
      OnTime period agent.time (agent.course turns).time task.phase (agent.rounds id turns)
        (agent.ends id turns) := by
  induction turns using List.reverseRecOn with
  | nil => exact ⟨_, started, rfl, OnTime.fresh period agent.time⟩
  | append_singleton past turn inductionHypothesis =>
    rw [course, Machine.run_concat] at unstopped ⊢
    rw [delays, Machine.log_concat, List.append_eq_nil_iff] at prompt
    rw [rounds, Machine.log_concat] at complete ⊢
    rw [ends, Machine.log_concat]
    obtain ⟨promptBefore, promptNow⟩ := prompt
    have between : (agent.course past).Orderly := orderly.course past
    have completeBefore := (List.forall_mem_append.mp complete).1
    obtain ⟨task, found, rfl, onTime⟩ :=
      inductionHypothesis (unstopped.of_proceed between.roster) promptBefore completeBefore
    refine onTime_proceed between found onTime completeBefore unstopped ?_
    cases late : (agent.course past).isLate id turn with
    | false => rfl
    | true =>
      have waited : (if (agent.course past).isLate id turn then _ else _) = [] := promptNow
      rw [late] at waited
      cases waited

end

section

variable (busBuffer : Nat) (rules : StreamRules) (crossOrigin : Bool) (cache : Cache)
  (clock : Clock)

/-- A turn starts a task in a running agent, nobody tells it to stop, and from then on no time passes
while the task could do something. Then its passes, as long as none hangs or panics, begin at the
times of a timetable that depends on nothing but how long they take: the first at once, every other
a period after the one before it began or when that one ended, whichever is later. So they lie at
least a period apart however long one of them took, and each ends before the next begins. It is
known as well when the task is to take its next step; it is not overdue, and can take that step
exactly when the time has come. -/
theorem passes_keep_timetable (past : List Turn) (first : Turn) (turns : List Turn) (id : Nat)
    (task : Task) :
    let before := (fresh busBuffer rules crossOrigin cache clock).course past
    let agent := (before.proceed first).1
    let later := agent.course turns
    let rounds := agent.rounds id turns
    let ends := agent.ends id turns
    before.roster.task? id = none → agent.roster.task? id = some task →
    later.Unstopped id → agent.delays id turns = [] →
    (∀ round ∈ rounds, round.pass.ending = .success ∨ round.pass.ending = .failure) →
    rounds.map (·.start) = timetable task.period agent.time (rounds.map (·.duration)) ∧
    (∀ round, rounds[0]? = some round → round.start = agent.time) ∧
    (∀ number round next, rounds[number]? = some round → rounds[number + 1]? = some next →
      next.start = max (round.start + task.period) round.finish) ∧
    (∀ number steps first second, rounds[number]? = some first →
      rounds[number + steps]? = some second →
      first.start + steps * task.period ≤ second.start) ∧
    (ends = (rounds.map (·.finish)).take ends.length ∧ ends.length ≤ rounds.length ∧
      rounds.length ≤ ends.length + 1) ∧
    later.time ≤ upcoming task.period agent.time rounds ends ∧
    ((later.stepCollector? id).isSome = true ↔
      later.time = upcoming task.period agent.time rounds ends) := by
  intro before agent later rounds ends absent started unstopped prompt complete
  have orderly : agent.Orderly :=
    ((Orderly.fresh busBuffer rules crossOrigin cache clock).course past).proceed first
  have accounted : later.roster.Accounted := (orderly.course turns).roster
  have fresh := started.trans (congrArg some (eq_start_of_new absent started))
  obtain ⟨current, found, -, onTime⟩ := onTime_course orderly fresh unstopped prompt complete
  have timed := onTime.timed
  have member := List.mem_of_find?_eq_some found
  have uncancelled := unstopped.task current member (by simpa using List.find?_some found)
  have unaborted := accounted.unaborted member uncancelled
  obtain ⟨record, held⟩ := accounted.exists_registration member
  obtain ⟨notOverdue, ready⟩ :=
    onTime.step_iff uncancelled unaborted (record.plan record.begun)
  refine ⟨timed, fun round first => start_of_timed timed first,
    fun number round next => start_succ_of_timed timed,
    fun number steps first second => apart_of_timed timed, onTime.ended, notOverdue, ?_⟩
  rw [stepCollector?, Option.isSome_map, Roster.stepTask?_eq found held, Option.isSome_map,
    unstopped.roster]
  exact ready

end

/-- A pass that fails takes longer than two periods. The next one begins when it ends, and the one
after that a period later: the ticks that were missed are not made up for. -/
theorem passes_after_long_one :
    let plan := Plan.ofList [⟨400, none, .success⟩, ⟨2500, none, .failure⟩, ⟨0, none, .success⟩]
    let past : List Turn := [.register "gpu" plan 1 false, .operate (.elapse 250)]
    let step : Turn := .operate (.collect 0)
    let turns : List Turn := [step, .operate (.elapse 400), step, .operate (.elapse 600), step,
      .operate (.elapse 2500), step, step, step, .operate (.elapse 1000), step]
    let before := (fresh 4 default false .empty ⟨.epoch, 0⟩).course past
    let agent := (before.proceed .startCollectors).1
    (agent.rounds 0 turns).map (·.start) = [250, 1250, 3750, 4750] ∧
      agent.ends 0 turns = [650, 3750, 3750] ∧
      (agent.rounds 0 turns).map (·.start) = timetable 1000 250 [400, 2500, 0, 0] := by
  intro plan past step turns before agent
  have unstopped : (agent.course turns).Unstopped 0 := ⟨by decide +kernel, by decide +kernel⟩
  obtain ⟨timed, -⟩ := passes_keep_timetable 4 default false .empty ⟨.epoch, 0⟩ past
    .startCollectors turns 0 (Task.start 0 0 1000 250) rfl rfl unstopped (by decide +kernel)
    (by decide +kernel)
  have began : agent.time = 250 := by decide +kernel
  have durations : (agent.rounds 0 turns).map (·.duration) = [400, 2500, 0, 0] := by decide +kernel
  refine ⟨by decide +kernel, by decide +kernel, ?_⟩
  rw [← durations, ← began]
  exact timed

end ServerMonitor.Agent
