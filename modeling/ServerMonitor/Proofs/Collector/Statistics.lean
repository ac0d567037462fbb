/-
This file states what is reported of the passes of a collector: how many failed and
when the latest one ended. Both are counted from the latest registration of the
name, over all tasks that ran it since, and only a pass that comes to its end by
itself counts. A task that was told to stop may give its pass up or yet bring it to
its end; if that happens after the name was registered again, the pass counts for the
registration that was replaced.
-/

import ServerMonitor.Proofs.Collector.Required

namespace ServerMonitor

/-! ### Passes that come to an end -/

namespace Collector

/-- Whether a pass that has come to an end failed; none comes to one that hangs or panics. -/
def Ending.failed? : Ending → Option Bool
  | .success => some false
  | .failure => some true
  | .hang | .panic => none

/-- Whether the pass of a task failed, if it has come to its end at a time. -/
def Task.ended? (task : Task) (time : Nat) : Option Bool :=
  match task.phase with
  | .collecting pass ends _ => if time < ends then none else pass.ending.failed?
  | _ => none

/-- Whether a task was told to stop. -/
def Task.isTold (task : Task) (shutdown : Bool) : Bool :=
  task.aborted || task.cancelled || shutdown

/-- Whether a pass failed that is told to have ended. -/
def Task.Event.failed? : Task.Event → Option Bool
  | .ended pass => pass.ending.failed?
  | .quiet | .began | .stuck _ => none

/-- A task brings its pass to an end unless it heeds that it was told to stop. -/
theorem Task.failed?_step (task : Task) (time : Nat) (shutdown : Bool) (next : Pass) :
    (task.step? time shutdown next).bind (·.2.failed?) =
      if task.isTold shutdown then none else task.ended? time := by
  unfold step?
  cases told : task.isTold shutdown with
  | true =>
    rw [if_pos rfl]
    split
    · rfl
    · split
      · rfl
      · rw [isTold, Bool.or_assoc, Bool.or_eq_true] at told
        rw [if_pos (told.resolve_left ‹_›)]
        rfl
  | false =>
    rw [isTold, Bool.or_assoc, Bool.or_eq_false_iff] at told
    rw [told.1, told.2, if_neg Bool.false_ne_true, ended?]
    cases phase : task.phase with
    | finished | panicked | dropped | hanging => rfl
    | waiting due =>
      show Option.bind (if due ≤ time then _ else none) _ = none
      split <;> rfl
    | collecting pass ends due =>
      show Option.bind (if ends ≤ time then some (task.endPass pass due) else none) _ =
        if time < ends then none else pass.ending.failed?
      by_cases early : time < ends
      · rw [if_neg (Nat.not_le.mpr early), if_pos early]
        rfl
      · rw [if_pos (Nat.not_lt.mp early), if_neg early, Option.bind_some, endPass]
        cases ending : pass.ending <;> simp [Event.failed?, Ending.failed?, ending]

theorem Task.failed?_stepHeedless (task : Task) (time : Nat) (next : Pass) :
    (task.stepHeedless? time next).bind (·.2.failed?) = task.ended? time := by
  have untold := failed?_step { task with cancelled := false, aborted := false } time false next
  refine .trans ?_ (untold.trans (if_neg Bool.false_ne_true))
  rw [stepHeedless?]
  cases { task with cancelled := false, aborted := false }.step? time false next <;> rfl

/-- A pass that came to its end. -/
structure Completion where
  failed : Bool
  instant : Instant
deriving DecidableEq

/-- What is counted of the passes of a collector. -/
structure Tally where
  errors : UInt64
  lastRun : Option Instant
deriving DecidableEq

namespace Tally

def zero : Tally := ⟨0, none⟩

def add (tally : Tally) (completion : Completion) : Tally :=
  ⟨if completion.failed then tally.errors + 1 else tally.errors, some completion.instant⟩

/-- The errors are counted in 64 bits. -/
theorem foldl_add (completions : List Completion) :
    completions.foldl add zero =
      ⟨UInt64.ofNat (completions.countP (·.failed)), completions.getLast?.map (·.instant)⟩ := by
  induction completions using List.reverseRecOn with
  | nil => rfl
  | append_singleton earlier completion inductionHypothesis =>
    rw [List.foldl_concat, inductionHypothesis, List.countP_append, List.getLast?_concat, add]
    cases failed : completion.failed <;> simp [failed, UInt64.ofNat_add]

end Tally

def Registration.tally (registration : Registration) : Tally :=
  ⟨registration.errors, registration.lastRun⟩

end Collector

namespace Roster

open Collector

/-- What a step of a task does to the record of its registration. -/
def change (now : Instant) (event : Task.Event) (registration : Registration) : Registration :=
  match event with
  | .began => { registration with begun := registration.begun + 1 }
  | .ended pass => record registration pass now
  | .quiet | .stuck _ => registration

theorem tally_change (now : Instant) (event : Task.Event) (registration : Registration) :
    (change now event registration).tally =
      (event.failed?.map (⟨·, now⟩)).toList.foldl Tally.add registration.tally := by
  cases event with
  | ended pass =>
    rw [change, record, Task.Event.failed?]
    cases pass.ending <;> rfl
  | quiet | began | stuck => rfl

/-! ### One request -/

/-- The task that a request lets take a step. -/
def stepping? (roster : Roster) : Request → Option Task
  | .step id _ _ _ | .stepHeedless id _ _ _ => roster.task? id
  | _ => none

/-- The time at which a request lets a task take a step. -/
def Request.stepsAt? : Request → Option Nat
  | .step _ _ time _ | .stepHeedless _ _ time _ => some time
  | _ => none

/-- The pass that a task brings to an end if a request lets it take a step. A task that heeds that
it was told to stop gives its pass up instead. -/
def completion? (roster : Roster) (task : Task) : Request → Option Completion
  | .step _ _ time now =>
    (if task.isTold roster.shutdown then none else task.ended? time).map (⟨·, now⟩)
  | .stepHeedless _ _ time now => (task.ended? time).map (⟨·, now⟩)
  | _ => none

/-- The pass of a registration that a request brings to an end, if it does. -/
def completions (index : Nat) (roster : Roster) (request : Request) : List Completion :=
  (roster.stepping? request).elim [] fun task =>
    if task.registration = index then (roster.completion? task request).toList else []

/-- What is counted for a registration. -/
def tally? (roster : Roster) (index : Nat) : Option Tally :=
  (roster.registrations[index]?).map Registration.tally

theorem tally?_eq_map_nil (roster : Roster) (index : Nat) :
    roster.tally? index = (roster.tally? index).map (([] : List Completion).foldl Tally.add) :=
  Option.map_id'.symm

theorem registrations_stepped (roster : Roster) (bus : Bus Payload) (task : Task) (now : Instant)
    (event : Task.Event) :
    (roster.stepped bus task now event).1.registrations =
      roster.registrations.modify task.registration (change now event) := by
  cases event with
  | quiet | stuck => exact (List.modify_id _ _).symm
  | began | ended => rfl

/-- A task that goes on counts the pass that it has brought to an end for its registration. -/
theorem tally?_stepped (roster : Roster) (bus : Bus Payload) (task : Task) (now : Instant)
    (event : Task.Event) (index : Nat) :
    (roster.stepped bus task now event).1.tally? index =
      (roster.tally? index).map ((if task.registration = index then
        (event.failed?.map (⟨·, now⟩)).toList else []).foldl Tally.add) := by
  rw [tally?, registrations_stepped]
  by_cases own : task.registration = index
  · rw [if_pos own, own, List.getElem?_modify_eq, tally?, Option.map_map, Option.map_eq_map,
      Option.map_map]
    exact Option.map_congr fun registration _ => tally_change now event registration
  · rw [if_neg own, List.getElem?_modify_ne _ _ own]
    exact roster.tally?_eq_map_nil index

/-- Whatever kind of step a task takes, the pass is counted that it brings to an end, for the
registration of the task. -/
theorem tally?_takeStep {step? : Task → Pass → Option (Task × Task.Event)}
    {ended? : Task → Option Bool}
    (moves : ∀ {task next moved event}, step? task next = some (moved, event) →
      moved.registration = task.registration)
    (ends : ∀ task next, (step? task next).bind (·.2.failed?) = ended? task) (roster : Roster)
    (bus : Bus Payload) (id : Nat) (now : Instant) (index : Nat) :
    (((roster.takeStep? bus id now step?).map (·.1)).getD roster).tally? index =
      (roster.tally? index).map (((roster.task? id).elim [] fun task =>
        if task.registration = index then ((ended? task).map (⟨·, now⟩)).toList else
          []).foldl Tally.add) := by
  cases found : roster.task? id with
  | none =>
    rw [takeStep?, found]
    exact roster.tally?_eq_map_nil index
  | some task =>
    rw [Option.elim_some]
    cases held : roster.registrations[task.registration]? with
    | none =>
      have stays : roster.takeStep? bus id now step? = none := by simp [takeStep?, found, held]
      rw [stays]
      by_cases own : task.registration = index
      · have unknown : roster.tally? index = none := by
          rw [tally?, ← own, held]
          rfl
        show roster.tally? index = _
        rw [unknown]
        rfl
      · rw [if_neg own]
        exact roster.tally?_eq_map_nil index
    | some registration =>
      rw [takeStep?_eq found held, ← ends task (registration.plan registration.begun)]
      cases taken : step? task (registration.plan registration.begun) with
      | none =>
        simp only [Option.bind_none, Option.map_none, Option.toList_none, ite_self]
        exact roster.tally?_eq_map_nil index
      | some result =>
        have counted := roster.tally?_stepped bus result.1 now result.2 index
        rw [moves taken] at counted
        exact counted

/-- What is counted for a registration changes with the passes that come to their ends, and with
nothing else; one more registration counts for itself. -/
theorem tally?_perform (roster : Roster) (request : Request) {index : Nat}
    (known : index < roster.registrations.length) :
    (roster.perform request).1.tally? index =
      (roster.tally? index).map ((roster.completions index request).foldl Tally.add) := by
  have kept {next : Roster} (registrations : next.registrations[index]? =
      roster.registrations[index]?) : next.tally? index =
        (roster.tally? index).map (([] : List Completion).foldl Tally.add) := by
    rw [tally?, registrations]
    exact roster.tally?_eq_map_nil index
  cases request with
  | step id bus time now =>
    refine tally?_takeStep (fun taken => ?_) (fun task next => ?_) roster bus id now index
    · obtain ⟨phase, rfl, -⟩ := move_of_step? taken
      rfl
    · exact task.failed?_step time roster.shutdown next
  | stepHeedless id bus time now =>
    refine tally?_takeStep (fun taken => ?_) (fun task next => ?_) roster bus id now index
    · obtain ⟨phase, rfl, -⟩ := move_of_stepHeedless? taken roster.shutdown
      rfl
    · exact task.failed?_stepHeedless time next
  | register name plan interval required =>
    refine kept ?_
    show (roster.register name plan interval required).registrations[index]? = _
    unfold register
    cases roster.entry? name with
    | none => exact List.getElem?_append_left known
    | some previous => simpa [setEntry] using List.getElem?_append_left known
  | startAll time =>
    refine kept (congrArg (·[index]?) ?_)
    show (roster.startAll time).1.registrations = _
    rw [startAll]
    exact view_foldl Roster.registrations (fun _ _ => by rfl) _ roster
  | stopAll =>
    refine kept (congrArg (·[index]?) ?_)
    show roster.stopAll.1.registrations = _
    rw [stopAll]
    exact view_foldl Roster.registrations
      (fun other entry => by exact (marks_cancelToken other entry).registrations) _ roster
  | enable name time now =>
    rcases roster.perform_enable name time now with same | ⟨entry, -, -, interval, -, started⟩
    · exact kept (by rw [same])
    · exact kept (by rw [started]; rfl)
  | disable name now =>
    rcases roster.perform_disable name now with same | ⟨entry, -, disabled⟩
    · exact kept (by rw [same])
    · exact kept (by rw [disabled]; simp [halt, setEntry])
  | changeInterval name seconds time =>
    rcases roster.perform_changeInterval name seconds time with
      same | ⟨-, entry, -, restarted | ⟨-, changed⟩⟩
    · exact kept (by rw [same])
    · exact kept (by rw [restarted]; simp [halt, start, setEntry])
    · exact kept (by rw [changed]; rfl)
  | shutdown => exact kept rfl

/-! ### Passes of a collector -/

theorem length_registrations_after (requests : List Request) :
    (after requests).registrations.length = (requests.flatMap Request.registers).length := by
  rw [← registered_after, registered, List.length_map]

/-- The requests after a registration go on from the state that it leaves. -/
theorem run_registered (past : List Request) (name : String) (plan : Plan) (interval : UInt64)
    (required : Bool) (future : List Request) :
    Machine.run perform (after (past ++ [.register name plan interval required])) future =
      after (past ++ .register name plan interval required :: future) :=
  (Machine.run_append perform _ _ future).symm.trans
    (congrArg after (List.append_cons past _ future).symm)

section

variable (past : List Request) (name : String) (plan : Plan) (interval : UInt64) (required : Bool)
  {future : List Request} (last : ∀ request ∈ future, request.replaces name = false)

include last

theorem entry?_of_last :
    ∃ entry, Roster.entry? (after (past ++ .register name plan interval required :: future)) name =
        some entry ∧ entry.registration = (past.flatMap Request.registers).length := by
  have condition := condition?_of_last past name plan interval required last
  obtain ⟨entry, found, -⟩ := Option.map_eq_some_iff.mp condition
  exact ⟨entry, found, registration_of_last past name plan interval required last found⟩

/-- What is counted for a collector since its registration. -/
theorem tally?_of_last :
    (after (past ++ .register name plan interval required :: future)).tally?
        (past.flatMap Request.registers).length =
      some (List.foldl Tally.add .zero (Machine.log perform
        (completions (past.flatMap Request.registers).length)
        (after (past ++ [.register name plan interval required])) future)) := by
  induction future using List.reverseRecOn with
  | nil =>
    have added : (after (past ++ [.register name plan interval required])).registrations =
        (after past).registrations ++ [⟨name, plan, 0, 0, 0, none⟩] := by
      rw [after_concat]
      show (Roster.register (after past) name plan interval required).registrations = _
      unfold register
      cases Roster.entry? (after past) name with
      | none => rfl
      | some previous => simp [setEntry]
    rw [tally?, added, ← length_registrations_after, List.getElem?_concat_length]
    rfl
  | append_singleton earlier request inductionHypothesis =>
    have lastEarlier : ∀ request ∈ earlier, request.replaces name = false :=
      fun other member => last other (List.mem_append_left _ member)
    have known : (past.flatMap Request.registers).length < List.length
        (after (past ++ .register name plan interval required :: earlier)).registrations := by
      rw [length_registrations_after, List.flatMap_append, List.flatMap_cons, List.length_append,
        List.length_append]
      exact Nat.lt_add_of_pos_right (Nat.lt_of_lt_of_le Nat.zero_lt_one (Nat.le_add_right _ _))
    rw [← List.cons_append, ← List.append_assoc, after_concat, tally?_perform _ request known,
      inductionHypothesis lastEarlier, Machine.log_concat, List.foldl_append, run_registered]
    rfl

end

/-- What is reported of the passes of a collector. -/
theorem status_of_tally {roster : Roster} {name : String} {entry : Entry} {tally : Tally}
    (found : roster.entry? name = some entry)
    (counted : roster.tally? entry.registration = some tally) :
    ∃ report, roster.status name = .ok report ∧ report.errors = tally.errors ∧
      report.lastRun = tally.lastRun := by
  obtain ⟨registration, held, rfl⟩ := Option.map_eq_some_iff.mp counted
  refine ⟨roster.statusOf entry, by rw [status, found], ?_⟩
  simp [statusOf, held, Registration.tally]

/-- A collector has at most one task that was not cancelled. -/
theorem task_eq_of_uncancelled {requests : List Request} {name : String} {task other : Task}
    (member : task ∈ (after requests).tasks) (own : (after requests).collectorOf task = some name)
    (uncancelled : task.cancelled = false) (otherMember : other ∈ (after requests).tasks)
    (otherOwn : (after requests).collectorOf other = some name)
    (otherUncancelled : other.cancelled = false) : task = other := by
  obtain ⟨entry, found, owns, named⟩ := owner_after requests member uncancelled
  obtain rfl : entry.name = name := Option.some.inj (named.symm.trans own)
  have otherOwns := owns_after found otherMember otherOwn otherUncancelled
  exact (sound_after requests).task_eq_of_id_eq member otherMember
    (Option.some.inj (owns.token.symm.trans otherOwns.token))

/-- Passes of one collector do not overlap once its cancelled and aborted tasks are over. -/
theorem length_active_le_one (requests : List Request) (name : String)
    (dropped : ∀ task ∈ (after requests).tasks, task.cancelled = true ∨ task.aborted = true →
      task.phase.isOver = true) :
    ((after requests).tasks.filter fun task =>
      (after requests).collectorOf task = some name && task.phase.isActive).length ≤ 1 := by
  have distinct : ((after requests).tasks.filter fun task =>
      (after requests).collectorOf task = some name && task.phase.isActive).Nodup :=
    (List.Nodup.of_map Task.id ((sound_after requests).taskIds ▸ List.nodup_range)).filter _
  have active {task : Task} (found : task ∈ (after requests).tasks.filter fun task =>
      (after requests).collectorOf task = some name && task.phase.isActive) :
      task ∈ (after requests).tasks ∧ (after requests).collectorOf task = some name ∧
        task.cancelled = false := by
    obtain ⟨member, picked⟩ := List.mem_filter.mp found
    rw [Bool.and_eq_true, decide_eq_true_eq] at picked
    refine ⟨member, picked.1, Bool.eq_false_iff.mpr fun cancelled => ?_⟩
    have ended := dropped task member (.inl cancelled)
    have running := picked.2
    cases phase : task.phase <;> rw [phase] at ended running <;> cases ended <;> cases running
  cases found : (after requests).tasks.filter fun task =>
      (after requests).collectorOf task = some name && task.phase.isActive with
  | nil => exact Nat.zero_le 1
  | cons task rest =>
    rw [found] at distinct active
    cases rest with
    | nil => exact Nat.le_refl 1
    | cons other later =>
      obtain ⟨member, own, uncancelled⟩ := active List.mem_cons_self
      obtain ⟨otherMember, otherOwn, otherUncancelled⟩ :=
        active (List.mem_cons_of_mem _ List.mem_cons_self)
      have same := task_eq_of_uncancelled member own uncancelled otherMember otherOwn
        otherUncancelled
      exact absurd (same ▸ List.mem_cons_self) (List.nodup_cons.mp distinct).1

/-- Why a task brings no pass to an end when a request lets it take a step. -/
inductive EndsNoPass (roster : Roster) (task : Task) : Request → Prop
  /-- It is in no pass, or in one that hangs or panics. -/
  | fruitless (request : Request) (fails : ∀ pass ends due,
      task.phase = .collecting pass ends due → pass.ending = .hang ∨ pass.ending = .panic) :
    EndsNoPass roster task request
  /-- Its pass has not come to its end. -/
  | early (request : Request) {pass : Pass} {ends due : Nat}
      (collecting : task.phase = .collecting pass ends due)
      (before : ∀ time, request.stepsAt? = some time → time < ends) :
    EndsNoPass roster task request
  /-- It gives its pass up because it was told to stop. -/
  | givesUp (id : Nat) (bus : Bus Payload) (time : Nat) (now : Instant)
      (told : task.isTold roster.shutdown = true) :
    EndsNoPass roster task (.step id bus time now)

theorem completion?_of_endsNoPass {roster : Roster} {request : Request} {task : Task}
    (endsNone : roster.EndsNoPass task request) : roster.completion? task request = none := by
  have unended (never : ∀ time, request.stepsAt? = some time → task.ended? time = none) :
      roster.completion? task request = none := by
    cases request with
    | step id bus time now => rw [completion?, never time rfl, ite_self]; rfl
    | stepHeedless id bus time now => rw [completion?, never time rfl]; rfl
    | _ => rfl
  cases endsNone with
  | fruitless _ fails =>
    refine unended fun time _ => ?_
    rw [Task.ended?]
    split
    · rename_i pass ends due collecting
      rcases fails pass ends due collecting with hangs | panics
      · rw [hangs]
        exact ite_self _
      · rw [panics]
        exact ite_self _
    · rfl
  | early _ collecting before =>
    refine unended fun time steps => ?_
    rw [Task.ended?, collecting]
    exact if_pos (before time steps)
  | givesUp id bus time now told =>
    rw [completion?, if_pos told]
    rfl

/-- A request brings no pass of a registration to an end, unless it is a step that does. -/
theorem completions_eq_nil {roster : Roster} {index : Nat} {request : Request}
    (endsNone : ∀ task, roster.stepping? request = some task → task.registration = index →
      roster.EndsNoPass task request) : roster.completions index request = [] := by
  rw [completions]
  cases stepping : roster.stepping? request with
  | none => rfl
  | some task =>
    rw [Option.elim_some]
    split
    · rw [completion?_of_endsNoPass (endsNone task stepping ‹_›)]
      rfl
    · rfl

/-- Since the latest registration of a name, the errors that are reported are the passes of this
registration that came to their ends and failed, counted in 64 bits, and the last run is the end of
the latest pass that came to its end, if any did. A task that was told to stop may give its pass up
or bring it to its end like any other. Nothing else changes what is reported: not a request to
start, stop, enable or disable collectors or to change an interval, nor a step of a task whose pass
hangs, panics, goes on or is given up. Passes of the collector do not overlap once its cancelled and
aborted tasks are over. -/
theorem statistics_follow_passes (past : List Request) (name : String) (plan : Plan)
    (interval : UInt64) (required : Bool) (future : List Request)
    (last : ∀ request ∈ future, request.replaces name = false) :
    let registered := after (past ++ [.register name plan interval required])
    let now := after (past ++ .register name plan interval required :: future)
    let index := (after past).registrations.length
    let completed := Machine.log perform (completions index) registered future
    (∃ report, now.status name = .ok report ∧
      report.errors = UInt64.ofNat (completed.countP (·.failed)) ∧
      report.lastRun = completed.getLast?.map (·.instant) ∧
      (report.lastRun = none ↔ completed = []) ∧
      ∀ request, request.replaces name = false →
        (∀ task, now.stepping? request = some task → task.registration = index →
          now.EndsNoPass task request) →
        ∃ later, (now.perform request).1.status name = .ok later ∧
          later.errors = report.errors ∧ later.lastRun = report.lastRun) ∧
    ((∀ task ∈ now.tasks, task.cancelled = true ∨ task.aborted = true →
        task.phase.isOver = true) →
      (now.tasks.filter fun task =>
        now.collectorOf task = some name && task.phase.isActive).length ≤ 1) := by
  intro registered now index completed
  have reported (requests : List Request)
      (lastOf : ∀ request ∈ requests, request.replaces name = false) :
      ∃ report,
        (after (past ++ .register name plan interval required :: requests)).status name =
          .ok report ∧
        (⟨report.errors, report.lastRun⟩ : Tally) =
          (Machine.log perform (completions index) registered requests).foldl Tally.add .zero := by
    obtain ⟨entry, found, registration⟩ :=
      entry?_of_last past name plan interval required lastOf
    have counted := tally?_of_last past name plan interval required lastOf
    rw [← length_registrations_after] at counted registration
    obtain ⟨report, read, errors, lastRun⟩ := status_of_tally found (registration ▸ counted)
    refine ⟨report, read, ?_⟩
    rw [errors, lastRun, registration]
  obtain ⟨report, read, tally⟩ := reported future last
  have counted := tally.trans (Tally.foldl_add completed)
  refine ⟨⟨report, read, congrArg Tally.errors counted, congrArg Tally.lastRun counted, ?_, ?_⟩,
    length_active_le_one _ name⟩
  · rw [show report.lastRun = _ from congrArg Tally.lastRun counted, Option.map_eq_none_iff,
      List.getLast?_eq_none_iff]
  · intro request keeps endsNone
    have lastOf : ∀ other ∈ future ++ [request], other.replaces name = false := fun other member =>
      (List.mem_append.mp member).elim (last other)
        fun same => List.mem_singleton.mp same ▸ keeps
    obtain ⟨later, readLater, tallyLater⟩ := reported _ lastOf
    have none : completions index now request = [] := completions_eq_nil endsNone
    rw [← List.cons_append, ← List.append_assoc, after_concat] at readLater
    have reached : Machine.run perform registered future = now :=
      run_registered past name plan interval required future
    rw [Machine.log_concat, reached, none, List.append_nil, ← tally] at tallyLater
    exact ⟨later, readLater, congrArg Tally.errors tallyLater, congrArg Tally.lastRun tallyLater⟩

/-- A run in which a collector succeeds, is stopped in a pass that comes to its end all the same,
is started again and panics. -/
def restartedRun (later : Instant) : List Request :=
  let bus := Bus.withCapacity 16
  [.startAll 0, .step 0 bus 0 .epoch, .step 0 bus 0 .epoch, .step 0 bus 30000 later, .stopAll,
    .stepHeedless 0 bus 30000 later, .changeInterval "disk" 60 30000, .startAll 30000,
    .step 1 bus 30000 later, .step 1 bus 30000 later]

/-- A pass that fails after its task was stopped is counted and stays counted when the collector is
started again; the pass of its next task panics and is not. -/
theorem statistics_of_restart :
    let plan := Plan.ofList [⟨0, none, .success⟩, ⟨0, none, .failure⟩, ⟨0, none, .panic⟩]
    let later : Instant := ⟨.epoch, 30, 0, by decide⟩
    ∃ report,
      (after (.register "disk" plan 30 false :: restartedRun later)).status "disk" = .ok report ∧
      report.errors = 1 ∧ report.lastRun = some later := by
  intro plan later
  have last : ∀ request ∈ restartedRun later, request.replaces "disk" = false := by
    simp [restartedRun, Request.replaces]
  obtain ⟨⟨report, read, errors, lastRun, -⟩, -⟩ :=
    statistics_follow_passes [] "disk" plan 30 false (restartedRun later) last
  have completed : Machine.log perform (completions (Roster.registrations (after [])).length)
      (after ([] ++ [.register "disk" plan 30 false])) (restartedRun later) =
        [⟨false, .epoch⟩, ⟨true, later⟩] := by decide +kernel
  rw [completed] at errors lastRun
  exact ⟨report, read, errors, lastRun⟩

end Roster

end ServerMonitor
