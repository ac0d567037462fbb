/-
This file states what keeps a collector polled. Enabling a collector succeeds and
reports it as running, but what is reported does not follow the task: a pass that
panics takes its task down and leaves the collector reported as running, and to
enable it then does nothing. Nothing else ends a task behind the back of its entry.
A collector that is reported as running is therefore polled unless its task
panicked, as long as the token above all tasks is not cancelled.
-/

import ServerMonitor.Proofs.Collector.Condition
import ServerMonitor.Proofs.Collector.Tasks

namespace ServerMonitor.Roster

open Collector

/-! ### Why a task is over -/

/-- The plan of a task holds a pass. -/
def Plans (roster : Roster) (task : Task) (pass : Pass) : Prop :=
  ∃ name plan number, roster.registered[task.registration]? = some (name, plan) ∧
    plan number = pass

/-- What a task is doing has a cause. -/
def Explains (roster : Roster) (task : Task) : Prop :=
  match task.phase with
  | .finished => task.cancelled = true ∨ roster.shutdown = true
  | .dropped => task.aborted = true
  | .collecting pass _ _ => roster.Plans task pass
  | .panicked => ∃ pass, roster.Plans task pass ∧ pass.ending = .panic
  | .waiting _ | .hanging => True

theorem Plans.mono {roster next : Roster} {task later : Task} {pass : Pass}
    (plans : roster.Plans task pass) (registration : later.registration = task.registration)
    (registered : roster.registered <+: next.registered) : next.Plans later pass := by
  obtain ⟨name, plan, number, held, same⟩ := plans
  obtain ⟨more, extended⟩ := registered
  refine ⟨name, plan, number, ?_, same⟩
  rw [← extended, registration,
    List.getElem?_append_left (List.getElem?_eq_some_iff.mp held).1, held]

/-- A task that takes no step needs no new cause, and the old ones stay. -/
theorem Explains.mono {roster next : Roster} {task later : Task} (explains : roster.Explains task)
    (phase : later.phase = task.phase) (registration : later.registration = task.registration)
    (cancelled : task.cancelled = true → later.cancelled = true)
    (aborted : task.aborted = true → later.aborted = true)
    (registered : roster.registered <+: next.registered)
    (shutdown : roster.shutdown = true → next.shutdown = true) : next.Explains later := by
  unfold Explains at explains ⊢
  rw [phase]
  cases same : task.phase with
  | finished =>
    rw [same] at explains
    exact explains.imp cancelled shutdown
  | dropped =>
    rw [same] at explains
    exact aborted explains
  | collecting pass ends due =>
    rw [same] at explains
    exact explains.mono registration registered
  | panicked =>
    rw [same] at explains
    obtain ⟨pass, plans, panics⟩ := explains
    exact ⟨pass, plans.mono registration registered, panics⟩
  | waiting due => trivial
  | hanging => trivial

/-- A step leads to a phase that has a cause, if the phase before has one. -/
theorem Explains.move {roster : Roster} {task : Task} (explains : roster.Explains task)
    {name : String} {plan : Plan} {number : Nat}
    (registered : roster.registered[task.registration]? = some (name, plan)) {phase : Phase}
    (move : Move task roster.shutdown (plan number) phase) :
    roster.Explains { task with phase } := by
  cases move with
  | dropped aborted => exact aborted
  | finished stopped => exact stopped
  | began ends due => exact ⟨name, plan, number, registered, rfl⟩
  | waits due => trivial
  | hangs => trivial
  -- The pass that panics is the one in progress, which has a cause of its own.
  | panicked pass ends due collecting panics =>
    rw [Explains, collecting] at explains
    exact ⟨pass, explains, panics⟩

/-- Every task has a cause for what it is doing. -/
def Explained (roster : Roster) : Prop := ∀ task ∈ roster.tasks, roster.Explains task

theorem Explained.of_tasks {roster next : Roster} (explained : roster.Explained)
    (tasks : next.tasks = roster.tasks) (registered : roster.registered <+: next.registered)
    (shutdown : roster.shutdown = true → next.shutdown = true) : next.Explained :=
  fun task member => (explained task (tasks ▸ member)).mono rfl rfl id id registered shutdown

theorem persistent_explained : Persistent Explained where
  setEntry roster entry explained := explained.of_tasks rfl List.prefix_rfl id
  marks roster next marks explained := by
    obtain ⟨change, tasks, marked⟩ := marks.tasks
    intro later member
    rw [tasks] at member
    obtain ⟨task, taskMember, rfl⟩ := List.mem_map.mp member
    obtain ⟨cancelled, aborted, same, cancels, aborts⟩ := marked task
    rw [same]
    exact (explained task taskMember).mono rfl rfl cancels aborts
      (marks.registered ▸ List.prefix_rfl) fun shutdown => marks.shutdown.trans shutdown
  start roster entry time explained := by
    intro task member
    rcases List.mem_append.mp member with old | new
    · exact (explained task old).mono rfl rfl id id List.prefix_rfl id
    · rw [List.mem_singleton.mp new]
      trivial
  added roster registration explained :=
    explained.of_tasks rfl ⟨_, List.map_append.symm⟩ id
  moved roster next task phase moved explained := by
    obtain ⟨name, plan, number, registered, move⟩ := moved.move
    intro later member
    rw [moved.tasks] at member
    obtain ⟨other, otherMember, rfl⟩ := List.mem_map.mp member
    have step : roster.Explains (if other.id = task.id then { task with phase } else other) := by
      split
      · exact (explained task moved.member).move registered move
      · exact explained other otherMember
    exact step.mono rfl rfl id id (moved.registered ▸ List.prefix_rfl) fun shutdown =>
      moved.shutdown.trans shutdown
  shutdown roster explained := explained.of_tasks rfl List.prefix_rfl fun _ => rfl

theorem explained_after (requests : List Request) : (after requests).Explained :=
  Machine.run_invariant perform Explained
    (fun _ request explained => persistent_explained.perform request explained)
    (fun _ member => absurd member List.not_mem_nil) requests

/-! ### Polled and panicked collectors -/

/-- A task runs the collector of a name that neither ended nor was cancelled. -/
def IsPolled (roster : Roster) (name : String) : Prop :=
  ∃ task ∈ roster.tasks, roster.collectorOf task = some name ∧ task.isLive = true

/-- The task of a collector panicked and was not cancelled since. -/
def HasPanicked (roster : Roster) (name : String) : Prop :=
  ∃ task ∈ roster.tasks, roster.collectorOf task = some name ∧ task.cancelled = false ∧
    task.phase = .panicked

theorem isLive_iff {task : Task} : task.isLive = true ↔
    task.phase.isOver = false ∧ task.cancelled = false ∧ task.aborted = false := by
  rw [Task.isLive, Bool.and_eq_true, Bool.and_eq_true, Bool.not_eq_true', Bool.not_eq_true',
    Bool.not_eq_true', and_assoc]

/-- A task that an entry owns is not over unless it panicked or all tasks are stopped. -/
theorem Explains.isOver_eq_false {roster : Roster} {task : Task} {entry : Entry}
    (explains : roster.Explains task) (owns : entry.Owns task) (active : roster.shutdown = false)
    (sound : task.phase ≠ .panicked) : task.phase.isOver = false := by
  rw [Explains] at explains
  cases phase : task.phase with
  | finished =>
    rw [phase, owns.uncancelled, active] at explains
    rcases explains with cancelled | stopped
    · cases cancelled
    · cases stopped
  | dropped =>
    rw [phase, owns.unaborted] at explains
    cases explains
  | panicked => exact absurd phase sound
  | waiting due => rfl
  | collecting pass ends due => rfl
  | hanging => rfl

section

variable {requests : List Request} {name : String} {entry : Entry}

/-- The task of a collector that was not cancelled is the one its entry owns. -/
theorem owns_after (registered : Roster.entry? (after requests) name = some entry) {task : Task}
    (member : task ∈ (after requests).tasks)
    (own : (after requests).collectorOf task = some name) (uncancelled : task.cancelled = false) :
    entry.Owns task := by
  obtain ⟨owner, found, owns, named⟩ := owner_after requests member uncancelled
  have sameName : owner.name = name := Option.some.inj (named.symm.trans own)
  rw [sameName] at found
  rwa [Option.some.inj (registered.symm.trans found)]

/-- A collector is reported as running if and only if it is polled or its task panicked, and not
both. -/
theorem running_iff_polled_or_panicked
    (registered : Roster.entry? (after requests) name = some entry)
    (active : (after requests).shutdown = false) :
    (entry.state = .running ↔
      (after requests).IsPolled name ∨ (after requests).HasPanicked name) ∧
    ¬((after requests).IsPolled name ∧ (after requests).HasPanicked name) := by
  have sound := sound_after requests
  obtain ⟨member, rfl⟩ := mem_of_entry?_eq_some registered
  refine ⟨⟨fun running => ?_, ?_⟩, ?_⟩
  · obtain ⟨task, taskMember, owns⟩ :=
      (sound.kept entry member).resolve_left fun idle => idle.state running
    have own : (after requests).collectorOf task = some entry.name := by
      obtain ⟨owner, found, otherOwns, named⟩ := owner_after requests taskMember owns.uncancelled
      obtain ⟨ownerMember, -⟩ := mem_of_entry?_eq_some found
      rw [named, sound.oneOwner entry member owner ownerMember _ owns.token otherOwns.token]
    by_cases panicked : task.phase = .panicked
    · exact .inr ⟨task, taskMember, own, owns.uncancelled, panicked⟩
    · refine .inl ⟨task, taskMember, own, isLive_iff.mpr ⟨?_, owns.uncancelled, owns.unaborted⟩⟩
      exact (explained_after requests task taskMember).isOver_eq_false owns active panicked
  · rintro (⟨task, taskMember, own, live⟩ | ⟨task, taskMember, own, uncancelled, -⟩)
    · exact (owns_after registered taskMember own (isLive_iff.mp live).2.1).state
    · exact (owns_after registered taskMember own uncancelled).state
  · rintro ⟨⟨task, taskMember, own, live⟩, other, otherMember, otherOwn, uncancelled, panicked⟩
    have owns := owns_after registered taskMember own (isLive_iff.mp live).2.1
    have otherOwns := owns_after registered otherMember otherOwn uncancelled
    have same : task = other := sound.task_eq_of_id_eq taskMember otherMember
      (Option.some.inj (owns.token.symm.trans otherOwns.token))
    subst same
    have lives := (isLive_iff.mp live).1
    rw [panicked] at lives
    exact nomatch lives

/-- A collector that is not running has a live task once it was enabled. -/
theorem isPolled_enable (registered : Roster.entry? (after requests) name = some entry)
    (idle : entry.state ≠ .running) (time : Nat) (now : Instant) :
    (after (requests ++ [.enable name time now])).IsPolled name := by
  obtain ⟨member, rfl⟩ := mem_of_entry?_eq_some registered
  have performed := (after requests).perform_enable_eq entry.name time now
  rw [registered] at performed
  dsimp only at performed
  rw [if_neg idle] at performed
  rw [after_concat, performed]
  refine ⟨_, List.mem_append_right _ List.mem_cons_self, ?_, rfl⟩
  have named := (latest_after requests entry member).named
  rw [← registered_after] at named
  exact named

/-- Only a pass that panics takes down the task of a collector. -/
theorem panics_of_hasPanicked (registered : Roster.entry? (after requests) name = some entry)
    (panicked : (after requests).HasPanicked name) :
    ∃ plan number, (after requests).registered[entry.registration]? = some (name, plan) ∧
      (plan number).ending = .panic := by
  obtain ⟨task, member, own, uncancelled, phase⟩ := panicked
  have explains := explained_after requests task member
  rw [Explains, phase] at explains
  obtain ⟨pass, ⟨other, plan, number, held, rfl⟩, panics⟩ := explains
  have sameName : other = name := by
    rw [collectorOf, held] at own
    exact Option.some.inj own
  have owns := owns_after registered member own uncancelled
  rw [sameName, owns.registration] at held
  exact ⟨plan, number, held, panics⟩

end

/-- Enabling a collector succeeds and it is reported as running. It is then polled if and only if
its task had not panicked: after a pass that panicked the collector is still reported as running,
and to enable it changes nothing. -/
theorem enabled_is_polled_unless_panicked (past : List Request) (name : String) (time : Nat)
    (now : Instant) (entry : Entry) (registered : Roster.entry? (after past) name = some entry)
    (active : (after past).shutdown = false) :
    let enabled := after (past ++ [.enable name time now])
    (∃ event, ((after past).perform (.enable name time now)).2 = .answered (.ok event)) ∧
    (∃ report, enabled.status name = .ok report ∧ report.state = .running) ∧
    (enabled.IsPolled name ↔ ¬(after past).HasPanicked name) ∧
    (entry.state = .running → ((after past).IsPolled name ↔ ¬(after past).HasPanicked name)) ∧
    ((after past).HasPanicked name → enabled = after past ∧
      ∃ plan number, (after past).registered[entry.registration]? = some (name, plan) ∧
        (plan number).ending = .panic) := by
  intro enabled
  have held : (after past).condition? name = some entry.condition := by
    rw [condition?, registered]
    rfl
  have changed : enabled.condition? name = some (entry.condition.enable name) := by
    show (after (past ++ [.enable name time now])).condition? name = _
    rw [after_concat, condition?_enable, held]
    exact congrArg some (if_pos rfl)
  obtain ⟨runs, notBoth⟩ := running_iff_polled_or_panicked registered active
  have polled_iff (running : entry.state = .running) :
      (after past).IsPolled name ↔ ¬(after past).HasPanicked name :=
    ⟨fun polled panicked => notBoth ⟨polled, panicked⟩, (runs.mp running).resolve_right⟩
  have unchanged (running : entry.state = .running) : enabled = after past := by
    refine (after_concat past _).trans ?_
    rw [perform_enable_eq, registered]
    exact congrArg Prod.fst (if_pos running)
  refine ⟨?_, ?_, ?_, polled_iff, fun panicked => ?_⟩
  · rw [answer_enable, held]
    exact ⟨_, rfl⟩
  · obtain ⟨report, status, -, -, state, -⟩ := status_of_condition changed
    refine ⟨report, status, state.trans ?_⟩
    rw [Condition.enable]
    split
    · assumption
    · rfl
  -- A running collector is left alone, alive or not; only one that is not running gets a task.
  · by_cases running : entry.state = .running
    · rw [unchanged running]
      exact polled_iff running
    · refine iff_of_true (isPolled_enable registered running time now) fun panicked => ?_
      exact running (runs.mpr (.inr panicked))
  · exact ⟨unchanged (runs.mpr (.inr panicked)), panics_of_hasPanicked registered panicked⟩

/-- A collector whose only pass ended in the given way. -/
def onePass (ending : Ending) : List Request :=
  let bus := Bus.withCapacity 16
  [.register "disk" (fun _ => ⟨0, none, ending⟩) 30 false, .startAll 0, .step 0 bus 0 .epoch,
    .step 0 bus 0 .epoch]

/-- A collector is still polled after a pass that failed. -/
theorem isPolled_of_failed_pass :
    (after (onePass .failure ++ [.enable "disk" 5 .epoch])).IsPolled "disk" := by
  have registered : Roster.entry? (after (onePass .failure)) "disk" =
      some ⟨"disk", 0, true, 30, .running, false, some 0, some 0⟩ := rfl
  obtain ⟨-, -, polled, -⟩ :=
    enabled_is_polled_unless_panicked (onePass .failure) "disk" 5 .epoch _ registered rfl
  refine polled.mpr fun ⟨task, member, _, _, panicked⟩ => ?_
  have tasks : (after (onePass .failure)).tasks = [⟨0, 0, 30000, false, false, .waiting 30000⟩] :=
    rfl
  rw [tasks] at member
  rw [List.mem_singleton.mp member] at panicked
  cases panicked

/-- A collector whose pass panicked is not polled again when it is enabled, and is still reported as
running. -/
theorem not_isPolled_of_panicked_pass :
    let enable : Request := .enable "disk" 5 .epoch
    let enabled := after (onePass .panic ++ [enable])
    (after (onePass .panic)).shutdown = false ∧
    ((after (onePass .panic)).perform enable).2 = .answered (.ok none) ∧
    (∃ report, enabled.status "disk" = .ok report ∧ report.state = .running) ∧
    ¬enabled.IsPolled "disk" := by
  intro enable enabled
  refine ⟨rfl, rfl, ⟨_, rfl, rfl⟩, fun ⟨task, member, _, live⟩ => ?_⟩
  have tasks : enabled.tasks = [⟨0, 0, 30000, false, false, .panicked⟩] := rfl
  rw [tasks] at member
  rw [List.mem_singleton.mp member] at live
  cases live

end ServerMonitor.Roster
