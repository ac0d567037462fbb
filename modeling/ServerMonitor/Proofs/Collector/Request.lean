/-
This file makes the roster a machine. Besides the requests that control the
collectors there are the steps of the tasks and the cancellation of the token
above all of them, which may come in between. Every request keeps every task
accounted for.
-/

import ServerMonitor.Proofs.Collector.Ownership
import ServerMonitor.Proofs.Machine

namespace ServerMonitor.Roster

open Collector

/-! ### Requests -/

inductive Request
  | register (name : String) (plan : Plan) (interval : UInt64) (required : Bool)
  | startAll (time : Nat)
  | stopAll
  | enable (name : String) (time : Nat) (now : Instant)
  | disable (name : String) (now : Instant)
  | changeInterval (name : String) (seconds : UInt64) (time : Nat)
  /-- A task takes a step, if it can take one. -/
  | step (id : Nat) (bus : Bus Payload) (time : Nat) (now : Instant)
  /-- A task takes a step as if it had not been told to stop. -/
  | stepHeedless (id : Nat) (bus : Bus Payload) (time : Nat) (now : Instant)
  /-- The token above all tasks is cancelled. -/
  | shutdown

inductive Reply
  | started (count : Nat)
  /-- The tasks handed back, with the names of their collectors. -/
  | handedBack (tasks : List (String × Nat))
  /-- The event to publish, or why the request was refused. -/
  | answered (outcome : Except Refusal (Option CollectorStateEvent))
  | done

/-- What the roster does when it is asked; a refused request leaves it as it is. -/
def perform : Machine Roster Request Reply
  | roster, .register name plan interval required =>
    (roster.register name plan interval required, .done)
  | roster, .startAll time => ((roster.startAll time).1, .started (roster.startAll time).2)
  | roster, .stopAll => (roster.stopAll.1, .handedBack roster.stopAll.2)
  | roster, .enable name time now =>
    match roster.enable name time now with
    | .ok (next, event) => (next, .answered (.ok event))
    | .error refusal => (roster, .answered (.error refusal))
  | roster, .disable name now =>
    match roster.disable name now with
    | .ok (next, event) => (next, .answered (.ok event))
    | .error refusal => (roster, .answered (.error refusal))
  | roster, .changeInterval name seconds time =>
    match roster.changeInterval name seconds time with
    | .ok next => (next, .answered (.ok none))
    | .error refusal => (roster, .answered (.error refusal))
  | roster, .step id bus time now =>
    (((roster.stepTask? bus id time now).map (·.1)).getD roster, .done)
  | roster, .stepHeedless id bus time now =>
    (((roster.stepHeedless? bus id time now).map (·.1)).getD roster, .done)
  | roster, .shutdown => ({ roster with shutdown := true }, .done)

/-- The tasks that an answer hands back. -/
def Reply.handed : Reply → List Nat
  | .handedBack tasks => tasks.map (·.2)
  | _ => []

/-- The tasks that were handed back in a run. -/
def handedBack (roster : Roster) (requests : List Request) : List Nat :=
  Machine.log perform (fun roster request => (roster.perform request).2.handed) roster requests

/-! ### What a request about one collector does -/

theorem defaultInterval_pos (name : String) : 0 < defaultInterval name := by
  unfold defaultInterval
  split <;> decide

theorem pos_of_isAllowedInterval {seconds : UInt64} (allowed : isAllowedInterval seconds = true) :
    0 < seconds := by
  rw [isAllowedInterval, Bool.and_eq_true, decide_eq_true_eq] at allowed
  exact UInt64.lt_of_lt_of_le (by decide) allowed.1

theorem perform_enable (roster : Roster) (name : String) (time : Nat) (now : Instant) :
    (roster.perform (.enable name time now)).1 = roster ∨
      ∃ entry ∈ roster.entries, entry.state ≠ .running ∧ ∃ interval, 0 < interval ∧
        (roster.perform (.enable name time now)).1 = roster.start { entry with interval } time := by
  rw [perform, enable]
  cases found : roster.entry? name with
  | none => exact .inl rfl
  | some entry =>
    obtain ⟨member, rfl⟩ := mem_of_entry?_eq_some found
    dsimp only
    by_cases running : entry.state = .running
    · rw [if_pos running]
      exact .inl rfl
    · rw [if_neg running]
      refine .inr ⟨entry, member, running, _, ?_, rfl⟩
      split
      · exact defaultInterval_pos entry.name
      · exact UInt64.pos_iff_ne_zero.mpr ‹_›

theorem perform_disable (roster : Roster) (name : String) (now : Instant) :
    (roster.perform (.disable name now)).1 = roster ∨
      ∃ entry ∈ roster.entries, (roster.perform (.disable name now)).1 =
        (roster.halt entry).setEntry { stopped entry with enabled := false } := by
  rw [perform, disable]
  cases found : roster.entry? name with
  | none => exact .inl rfl
  | some entry =>
    obtain ⟨member, rfl⟩ := mem_of_entry?_eq_some found
    dsimp only
    by_cases required : entry.required = true
    · rw [if_pos required]
      exact .inl rfl
    · rw [if_neg required]
      by_cases running : entry.state ≠ .running
      · rw [if_pos running]
        exact .inl rfl
      · rw [if_neg running]
        exact .inr ⟨entry, member, rfl⟩

theorem perform_changeInterval (roster : Roster) (name : String) (seconds : UInt64) (time : Nat) :
    (roster.perform (.changeInterval name seconds time)).1 = roster ∨
      0 < seconds ∧ ∃ entry ∈ roster.entries,
        ((roster.perform (.changeInterval name seconds time)).1 =
            (roster.halt entry).start { stopped entry with interval := seconds } time ∨
          entry.state ≠ .running ∧ (roster.perform (.changeInterval name seconds time)).1 =
            roster.setEntry { entry with interval := seconds }) := by
  rw [perform, changeInterval]
  cases found : roster.entry? name with
  | none => exact .inl rfl
  | some entry =>
    obtain ⟨member, rfl⟩ := mem_of_entry?_eq_some found
    dsimp only
    cases allowed : isAllowedInterval seconds with
    | false => exact .inl rfl
    | true =>
      refine .inr ⟨pos_of_isAllowedInterval allowed, entry, member, ?_⟩
      by_cases running : entry.state = .running
      · rw [if_pos running]
        exact .inl rfl
      · rw [if_neg running]
        exact .inr ⟨running, rfl⟩

/-! ### Steps of tasks -/

/-- The phases that a task may go to in one step, and why. -/
inductive Move (task : Task) (shutdown : Bool) (next : Pass) : Phase → Prop
  | dropped (aborted : task.aborted = true) : Move task shutdown next .dropped
  | finished (stopped : task.cancelled = true ∨ shutdown = true) : Move task shutdown next .finished
  | began (ends due : Nat) : Move task shutdown next (.collecting next ends due)
  | waits (due : Nat) : Move task shutdown next (.waiting due)
  | hangs : Move task shutdown next .hanging
  | panicked (pass : Pass) (ends due : Nat) (collecting : task.phase = .collecting pass ends due)
    (panics : pass.ending = .panic) : Move task shutdown next .panicked

theorem move_of_step? {task moved : Task} {now : Nat} {shutdown : Bool} {next : Pass}
    {event : Task.Event} (step : task.step? now shutdown next = some (moved, event)) :
    ∃ phase, moved = { task with phase } ∧ Move task shutdown next phase := by
  have same {other : Task} {otherEvent : Task.Event}
      (equal : some (other, otherEvent) = some (moved, event)) : moved = other := by
    cases equal
    rfl
  unfold Task.step? at step
  split at step
  · cases step
  split at step
  · exact ⟨.dropped, same step, .dropped ‹_›⟩
  split at step
  · exact ⟨.finished, same step, .finished ((Bool.or_eq_true _ _).mp ‹_›)⟩
  split at step
  · split at step
    · exact ⟨_, same step, .began _ _⟩
    · cases step
  case _ pass ends due collecting =>
    split at step
    · unfold Task.endPass at step
      split at step
      · exact ⟨_, same step, .waits due⟩
      · exact ⟨_, same step, .waits due⟩
      · exact ⟨_, same step, .hangs⟩
      · exact ⟨_, same step, .panicked pass ends due collecting ‹_›⟩
    · cases step
  · cases step

/-- A task that does not heed that it was told to stop moves like one that was not told. -/
theorem move_of_stepHeedless? {task moved : Task} {now : Nat} {next : Pass} {event : Task.Event}
    (step : task.stepHeedless? now next = some (moved, event)) (shutdown : Bool) :
    ∃ phase, moved = { task with phase } ∧ Move task shutdown next phase := by
  obtain ⟨⟨other, otherEvent⟩, taken, same⟩ := Option.bind_eq_some_iff.mp step
  obtain ⟨phase, rfl, move⟩ := move_of_step? taken
  cases same
  refine ⟨phase, rfl, ?_⟩
  cases move with
  | dropped aborted => cases aborted
  | finished stopped => rcases stopped with cancelled | shutdown <;> contradiction
  | began ends due => exact .began ends due
  | waits due => exact .waits due
  | hangs => exact .hangs
  | panicked pass ends due collecting panics => exact .panicked pass ends due collecting panics

/-- What is registered: the names and the plans, in the order of their registration. -/
def registered (roster : Roster) : List (String × Plan) :=
  roster.registrations.map fun registration => (registration.name, registration.plan)

theorem Marks.registered {roster next : Roster} (marks : roster.Marks next) :
    next.registered = roster.registered := by
  rw [Roster.registered, marks.registrations, Roster.registered]

theorem registered_updateRegistration (roster : Roster) (index : Nat)
    (change : Registration → Registration)
    (same : ∀ registration, (change registration).name = registration.name ∧
      (change registration).plan = registration.plan) :
    (roster.updateRegistration index change).registered = roster.registered := by
  unfold registered updateRegistration
  refine List.ext_getElem? fun position => ?_
  rw [List.getElem?_map, List.getElem?_map, List.getElem?_modify]
  split
  · cases roster.registrations[position]? with
    | none => rfl
    | some registration =>
      obtain ⟨name, plan⟩ := same registration
      simp [name, plan]
  · simp

/-- What is left after a step of a task, which changes its phase and the record of its
registration. -/
structure Moved (roster next : Roster) (task : Task) (phase : Phase) : Prop where
  member : task ∈ roster.tasks
  move : ∃ name plan number, roster.registered[task.registration]? = some (name, plan) ∧
    Move task roster.shutdown (plan number) phase
  tasks : next.tasks = roster.tasks.map fun other =>
    if other.id = task.id then { task with phase } else other
  entries : next.entries = roster.entries
  registered : next.registered = roster.registered
  shutdown : next.shutdown = roster.shutdown

theorem moved_stepped {roster : Roster} {task : Task} {phase : Phase} (member : task ∈ roster.tasks)
    (move : ∃ name plan number, roster.registered[task.registration]? = some (name, plan) ∧
      Move task roster.shutdown (plan number) phase)
    (bus : Bus Payload) (now : Instant) (event : Task.Event) :
    roster.Moved (roster.stepped bus { task with phase } now event).1 task phase := by
  cases event with
  | quiet | stuck => exact ⟨member, move, rfl, rfl, rfl, rfl⟩
  | began =>
    refine ⟨member, move, rfl, rfl, registered_updateRegistration _ _ _ fun registration => ?_, rfl⟩
    exact ⟨rfl, rfl⟩
  | ended pass =>
    refine ⟨member, move, rfl, rfl, registered_updateRegistration _ _ _ fun registration => ?_, rfl⟩
    unfold record
    cases pass.ending <;> exact ⟨rfl, rfl⟩

/-- Whether a roster and a bus have come of a step of a task. -/
def Stepped (roster : Roster) (bus : Bus Payload) (id : Nat) (now : Instant)
    (result : Roster × Bus Payload) : Prop :=
  ∃ task phase event, task ∈ roster.tasks ∧ task.id = id ∧
    (∃ name plan number, roster.registered[task.registration]? = some (name, plan) ∧
      Move task roster.shutdown (plan number) phase) ∧
    result = roster.stepped bus { task with phase } now event

section

variable {roster : Roster} {bus : Bus Payload} {id time : Nat} {now : Instant}
  {step? : Task → Pass → Option (Task × Task.Event)} {result : Roster × Bus Payload}

/-- A step of a task that runs a known registration is what the task itself does. -/
theorem takeStep?_eq {task : Task} (found : roster.task? id = some task)
    {registration : Registration}
    (held : roster.registrations[task.registration]? = some registration) (bus : Bus Payload)
    (now : Instant) (step? : Task → Pass → Option (Task × Task.Event)) :
    roster.takeStep? bus id now step? =
      (step? task (registration.plan registration.begun)).map fun taken =>
        roster.stepped bus taken.1 now taken.2 := by
  rw [takeStep?, found, Option.bind_eq_bind, Option.bind_some, held, Option.bind_eq_bind,
    Option.bind_some]
  cases step? task (registration.plan registration.begun) <;> rfl

theorem stepTask?_eq {task : Task} (found : roster.task? id = some task)
    {registration : Registration}
    (held : roster.registrations[task.registration]? = some registration) (bus : Bus Payload)
    (time : Nat) (now : Instant) :
    roster.stepTask? bus id time now =
      (task.step? time roster.shutdown (registration.plan registration.begun)).map fun taken =>
        roster.stepped bus taken.1 now taken.2 :=
  takeStep?_eq found held bus now _

/-- Whatever kind of step a task takes, it goes on as the step says, and its record with it. -/
theorem stepped_of_takeStep?
    (moves : ∀ {task next moved event}, step? task next = some (moved, event) →
      ∃ phase, moved = { task with phase } ∧ Move task roster.shutdown next phase)
    (step : roster.takeStep? bus id now step? = some result) :
    roster.Stepped bus id now result := by
  obtain ⟨task, found, further⟩ := Option.bind_eq_some_iff.mp step
  obtain ⟨registration, held, -⟩ := Option.bind_eq_some_iff.mp further
  rw [takeStep?_eq found held] at step
  obtain ⟨⟨moved, event⟩, taken, rfl⟩ := Option.map_eq_some_iff.mp step
  obtain ⟨phase, rfl, move⟩ := moves taken
  refine ⟨task, phase, event, List.mem_of_find?_eq_some found, by simpa using List.find?_some found,
    ⟨registration.name, registration.plan, registration.begun, ?_, move⟩, rfl⟩
  rw [registered, List.getElem?_map, held]
  rfl

theorem stepped_of_stepTask? (step : roster.stepTask? bus id time now = some result) :
    roster.Stepped bus id now result :=
  stepped_of_takeStep? move_of_step? step

theorem stepped_of_stepHeedless? (step : roster.stepHeedless? bus id time now = some result) :
    roster.Stepped bus id now result :=
  stepped_of_takeStep? (move_of_stepHeedless? · roster.shutdown) step

end

/-- Whether a request lets a task take a step. -/
def Request.isStep : Request → Bool
  | .step _ _ _ _ | .stepHeedless _ _ _ _ => true
  | _ => false

/-- Where a task is let take a step, it moves or nothing changes. -/
theorem perform_of_isStep (roster : Roster) (request : Request) (step : request.isStep = true) :
    (roster.perform request).1 = roster ∨
      ∃ task phase, roster.Moved (roster.perform request).1 task phase := by
  have moves {bus : Bus Payload} {id : Nat} {now : Instant} {taken : Option (Roster × Bus Payload)}
      (steps : ∀ {result}, taken = some result → roster.Stepped bus id now result) :
      (taken.map (·.1)).getD roster = roster ∨
        ∃ task phase, roster.Moved ((taken.map (·.1)).getD roster) task phase := by
    cases found : taken with
    | none => exact .inl rfl
    | some result =>
      obtain ⟨task, phase, event, member, -, move, rfl⟩ := steps found
      exact .inr ⟨task, phase, moved_stepped member move bus now event⟩
  cases request with
  | step id bus time now => exact moves stepped_of_stepTask?
  | stepHeedless id bus time now => exact moves stepped_of_stepHeedless?
  | _ => cases step

/-! ### Elementary changes -/

/-- A property of rosters that every elementary change keeps which moves no task. -/
structure Stable (property : Roster → Prop) : Prop where
  setEntry : ∀ roster entry, property roster → property (roster.setEntry entry)
  marks : ∀ roster next, roster.Marks next → property roster → property next
  start : ∀ roster entry time, property roster → property (roster.start entry time)
  added : ∀ roster registration, property roster →
    property { roster with registrations := roster.registrations ++ [registration] }
  shutdown : ∀ roster, property roster → property { roster with shutdown := true }

namespace Stable

variable {property : Roster → Prop}

/-- The task of an entry is given up. -/
theorem give (stable : Stable property) {roster : Roster} (entry next : Entry)
    (holds : property roster) :
    property (((roster.cancelToken entry).abortHandle entry).setEntry next) := by
  refine stable.setEntry _ _ (stable.marks _ _ (marks_abortHandle _ entry) ?_)
  exact stable.marks _ _ (marks_cancelToken _ entry) holds

theorem perform (stable : Stable property) {roster : Roster} {request : Request}
    (other : request.isStep = false) (holds : property roster) :
    property (roster.perform request).1 := by
  cases request with
  | register name plan interval required =>
    have added := stable.added roster ⟨name, plan, 0, 0, 0, none⟩ holds
    show property (roster.register name plan interval required)
    unfold register
    cases roster.entry? name with
    | none => exact stable.setEntry _ _ added
    | some previous => exact stable.give previous _ added
  | startAll time =>
    exact List.foldlRecOn _ _ holds fun roster holds entry _ => stable.start _ _ _ holds
  | stopAll =>
    exact List.foldlRecOn _ _ holds fun roster holds entry _ =>
      stable.setEntry _ _ (stable.marks _ _ (marks_cancelToken _ entry) holds)
  | enable name time now =>
    rcases roster.perform_enable name time now with unchanged | ⟨entry, -, -, interval, -, started⟩
    · rwa [unchanged]
    · rw [started]
      exact stable.start _ _ _ holds
  | disable name now =>
    rcases roster.perform_disable name now with unchanged | ⟨entry, -, disabled⟩
    · rwa [unchanged]
    · rw [disabled]
      exact stable.setEntry _ _ (stable.give entry _ holds)
  | changeInterval name seconds time =>
    rcases roster.perform_changeInterval name seconds time with
      unchanged | ⟨-, entry, -, restarted | ⟨-, changed⟩⟩
    · rwa [unchanged]
    · rw [restarted]
      exact stable.start _ _ _ (stable.give entry _ holds)
    · rw [changed]
      exact stable.setEntry _ _ holds
  | step | stepHeedless => cases other
  | shutdown => exact stable.shutdown _ holds

end Stable

/-- A property of rosters that every elementary change keeps. All requests are put together from
these changes. -/
structure Persistent (property : Roster → Prop) : Prop extends Stable property where
  moved : ∀ roster next task phase, roster.Moved next task phase → property roster → property next

theorem Persistent.perform {property : Roster → Prop} (persistent : Persistent property)
    {roster : Roster} (request : Request) (holds : property roster) :
    property (roster.perform request).1 := by
  cases step : request.isStep with
  | false => exact persistent.toStable.perform step holds
  | true =>
    rcases roster.perform_of_isStep request step with same | ⟨task, phase, moved⟩
    · rwa [same]
    · exact persistent.moved _ _ _ _ moved holds

/-! ### Requests about one collector -/

namespace Sound

variable {roster : Roster} {handed : List Nat}

theorem congr (sound : roster.Sound handed) {next : Roster}
    (entries : next.entries = roster.entries) (tasks : next.tasks = roster.tasks) :
    next.Sound handed :=
  sound.of_map_tasks id (fun task _ => ⟨task.phase, rfl⟩) entries (tasks.trans (List.map_id _).symm)

/-- A task that is aborted is not handed back. -/
theorem halt (sound : roster.Sound handed) {entry next : Entry} (member : entry ∈ roster.entries)
    (idle : next.Idle) (sameName : next.name = entry.name) :
    (((roster.cancelToken entry).abortHandle entry).setEntry next).Sound handed := by
  rw [cancelToken_abortHandle_setEntry roster (sound.token_eq_handle member)]
  have released := sound.release true member idle sameName
  rwa [if_pos rfl, List.append_nil] at released

theorem register (sound : roster.Sound handed) (name : String) (plan : Plan) (interval : UInt64)
    (required : Bool) : (roster.register name plan interval required).Sound handed := by
  have added : Roster.Sound
      { roster with registrations := roster.registrations ++ [⟨name, plan, 0, 0, 0, none⟩] }
      handed := sound.congr rfl rfl
  unfold Roster.register
  cases found : roster.entry? name with
  | some previous =>
    obtain ⟨member, sameName⟩ := mem_of_entry?_eq_some found
    refine added.halt member ⟨?_, rfl, rfl⟩ sameName.symm
    dsimp only
    split <;> decide
  | none =>
    refine added.setEntry ⟨?_, rfl, rfl⟩ fun entry member same => ?_
    · dsimp only
      split <;> decide
    · exact absurd same (notMem_of_entry?_eq_none found member)

/-- The entry of a name that is not running is idle, and no other has the name. -/
theorem idle_of_name_eq (sound : roster.Sound handed) {entry : Entry}
    (member : entry ∈ roster.entries) (state : entry.state ≠ .running) :
    ∀ other ∈ roster.entries, other.name = entry.name → other.Idle := by
  intro other otherMember same
  rw [sound.entry_eq_of_name_eq otherMember member same]
  exact sound.idle_of_not_running member state

theorem stopped_idle (entry : Entry) : (stopped entry).Idle :=
  ⟨nofun, rfl, rfl⟩

/-- After an entry gave up its task its name has none. -/
theorem idle_after_halt (sound : roster.Sound handed) (entry : Entry) :
    ∀ other ∈ (((roster.cancelToken entry).abortHandle entry).setEntry (stopped entry)).entries,
      other.name = entry.name → other.Idle := by
  intro other member same
  rw [Roster.setEntry, abortHandle_entries, cancelToken_entries] at member
  rcases (mem_putEntry _ sound.distinctNames other).mp member with rfl | ⟨-, different⟩
  · exact stopped_idle entry
  · exact absurd same different

theorem enable (sound : roster.Sound handed) (name : String) (time : Nat) (now : Instant) :
    (roster.perform (.enable name time now)).1.Sound handed := by
  rcases roster.perform_enable name time now with
    unchanged | ⟨entry, member, state, interval, positive, started⟩
  · rwa [unchanged]
  · rw [started]
    exact sound.start time positive fun other otherMember same =>
      sound.idle_of_name_eq member state other otherMember same

theorem disable (sound : roster.Sound handed) (name : String) (now : Instant) :
    (roster.perform (.disable name now)).1.Sound handed := by
  rcases roster.perform_disable name now with unchanged | ⟨entry, member, disabled⟩
  · rwa [unchanged]
  · rw [disabled]
    have halted := sound.halt member (stopped_idle entry) rfl
    exact halted.setEntry ⟨nofun, rfl, rfl⟩ fun other otherMember same =>
      sound.idle_after_halt entry other otherMember same

theorem changeInterval (sound : roster.Sound handed) (name : String) (seconds : UInt64)
    (time : Nat) : (roster.perform (.changeInterval name seconds time)).1.Sound handed := by
  rcases roster.perform_changeInterval name seconds time with
    unchanged | ⟨positive, entry, member, restarted | ⟨state, changed⟩⟩
  · rwa [unchanged]
  · rw [restarted]
    have halted := sound.halt member (stopped_idle entry) rfl
    exact halted.start time positive fun other otherMember same =>
      sound.idle_after_halt entry other otherMember same
  · rw [changed]
    have idle := sound.idle_of_not_running member state
    exact sound.setEntry ⟨idle.state, idle.token, idle.handle⟩ fun other otherMember same =>
      sound.idle_of_name_eq member state other otherMember same

/-! ### Requests about all collectors -/

theorem mem_entries_start (sound : roster.Sound handed) (entry : Entry) (time : Nat)
    {other : Entry} (member : other ∈ roster.entries) (different : other.name ≠ entry.name) :
    other ∈ (roster.start entry time).entries :=
  (mem_putEntry _ sound.distinctNames other).mpr (.inr ⟨member, different⟩)

/-- The entries of a snapshot are started one by one; when its turn comes, each is still the
current entry of its name. -/
theorem startEach (sound : roster.Sound handed) (time : Nat) (pending : List Entry)
    (distinct : (pending.map (·.name)).Nodup)
    (ready : ∀ entry ∈ pending, entry ∈ roster.entries ∧ entry.Idle ∧ 0 < entry.interval) :
    (pending.foldl (fun roster entry => roster.start entry time) roster).Sound handed := by
  induction pending generalizing roster with
  | nil => exact sound
  | cons entry rest inductionHypothesis =>
    obtain ⟨fresh, distinctRest⟩ := List.nodup_cons.mp distinct
    obtain ⟨member, idle, interval⟩ := ready entry List.mem_cons_self
    refine inductionHypothesis (sound.start time interval ?_) distinctRest fun other waits => ?_
    · exact sound.idle_of_name_eq member idle.state
    · obtain ⟨otherMember, otherReady⟩ := ready other (List.mem_cons_of_mem _ waits)
      refine ⟨sound.mem_entries_start entry time otherMember fun same => fresh ?_, otherReady⟩
      exact List.mem_map.mpr ⟨other, waits, same⟩

/-- The entries of a snapshot give up their tasks one by one, and all tasks are handed back. -/
theorem stopEach (sound : roster.Sound handed) (pending : List Entry)
    (distinct : (pending.map (·.name)).Nodup)
    (current : ∀ entry ∈ pending, entry ∈ roster.entries) :
    (pending.foldl (fun roster entry => (roster.cancelToken entry).setEntry (stopped entry))
      roster).Sound (handed ++ pending.filterMap (·.handle)) := by
  induction pending generalizing roster handed with
  | nil => exact (List.append_nil handed).symm ▸ sound
  | cons entry rest inductionHypothesis =>
    obtain ⟨fresh, distinctRest⟩ := List.nodup_cons.mp distinct
    have member := current entry List.mem_cons_self
    have released := sound.release false member (stopped_idle entry) rfl
    rw [← cancelToken_setEntry roster (sound.token_eq_handle member)] at released
    have step := inductionHypothesis released distinctRest fun other waits => by
      rw [Roster.setEntry, cancelToken_entries]
      refine (mem_putEntry _ sound.distinctNames other).mpr (.inr ⟨?_, fun same => fresh ?_⟩)
      · exact current other (List.mem_cons_of_mem _ waits)
      · exact List.mem_map.mpr ⟨other, waits, same⟩
    have collected : (entry :: rest).filterMap (·.handle) =
        entry.handle.toList ++ rest.filterMap (·.handle) := by
      rw [List.filterMap_cons]
      cases entry.handle <;> rfl
    rw [collected, ← List.append_assoc]
    exact step

theorem startAll (sound : roster.Sound handed) (time : Nat) :
    (roster.startAll time).1.Sound handed := by
  refine sound.startEach time (roster.entries.filter isStartable) ?_ fun entry found => ?_
  · exact (List.filter_sublist.map _).nodup sound.distinctNames
  · obtain ⟨member, startable⟩ := List.mem_filter.mp found
    rw [isStartable, Bool.and_eq_true, Bool.and_eq_true, decide_eq_true_eq, decide_eq_true_eq]
      at startable
    exact ⟨member, sound.idle_of_not_running member startable.2, startable.1.2⟩

theorem stopAll (sound : roster.Sound handed) :
    roster.stopAll.1.Sound (handed ++ roster.stopAll.2.map (·.2)) := by
  have handles : roster.stopAll.2.map (·.2) =
      (roster.entries.filter fun entry => entry.token.isSome).filterMap (·.handle) := by
    show ((roster.entries.filter fun entry => entry.token.isSome).filterMap _).map _ = _
    rw [List.map_filterMap]
    congr 1
    funext entry
    cases entry.handle <;> rfl
  rw [handles]
  refine sound.stopEach _ ?_ fun entry found => (List.mem_filter.mp found).1
  exact (List.filter_sublist.map _).nodup sound.distinctNames

/-! ### Runs -/

theorem moved (sound : roster.Sound handed) {next : Roster} {task : Task} {phase : Phase}
    (moved : roster.Moved next task phase) : next.Sound handed := by
  refine sound.of_map_tasks _ (fun other otherMember => ?_) moved.entries moved.tasks
  by_cases own : other.id = task.id
  · rw [if_pos own, sound.task_eq_of_id_eq otherMember moved.member own]
    exact ⟨phase, rfl⟩
  · rw [if_neg own]
    exact ⟨other.phase, rfl⟩

/-- Every request keeps every task accounted for. -/
theorem perform (sound : roster.Sound handed) (request : Request) :
    (roster.perform request).1.Sound (handed ++ (roster.perform request).2.handed) := by
  have quiet (next : Roster) (reply : Reply) (kept : next.Sound handed) (none : reply.handed = []) :
      next.Sound (handed ++ reply.handed) := by rwa [none, List.append_nil]
  have steps := perform_of_isStep roster request
  cases request with
  | register name plan interval required =>
    exact quiet _ _ (sound.register name plan interval required) rfl
  | startAll time => exact quiet _ _ (sound.startAll time) rfl
  | stopAll => exact sound.stopAll
  | enable name time now =>
    refine quiet _ _ (sound.enable name time now) ?_
    rw [Roster.perform]
    split <;> rfl
  | disable name now =>
    refine quiet _ _ (sound.disable name now) ?_
    rw [Roster.perform]
    split <;> rfl
  | changeInterval name seconds time =>
    refine quiet _ _ (sound.changeInterval name seconds time) ?_
    rw [Roster.perform]
    split <;> rfl
  | step | stepHeedless =>
    refine quiet _ _ ?_ rfl
    rcases steps rfl with same | ⟨task, phase, moved⟩
    · rwa [same]
    · exact sound.moved moved
  | shutdown => exact quiet _ _ (sound.congr rfl rfl) rfl

theorem run (requests : List Request) :
    (Machine.run Roster.perform .empty requests).Sound (handedBack .empty requests) := by
  induction requests using List.reverseRecOn with
  | nil => exact Sound.empty
  | append_singleton past request inductionHypothesis =>
    rw [Machine.run_concat, handedBack, Machine.log_concat]
    exact inductionHypothesis.perform request

end Sound

end ServerMonitor.Roster
