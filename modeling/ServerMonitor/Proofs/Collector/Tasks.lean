/-
This file states what becomes of the tasks of the collectors. A task is never
forgotten: it is owned by the current entry of its name and runs the latest
registration of that name at the interval that is reported, or it was cancelled,
and then its handle was either aborted or handed back by one request to stop all
collectors.
-/

import ServerMonitor.Proofs.Collector.Request

namespace ServerMonitor.Roster

open Collector

/-! ### What goes on -/

/-- What a request registers. -/
def Request.registers : Request → List (String × Plan)
  | .register name plan _ _ => [(name, plan)]
  | _ => []

/-- What is left as it is while nothing is registered: the registrations, which of them an entry
stands for, and the tasks, which may only be cancelled. -/
structure Continues (roster next : Roster) : Prop where
  registered : next.registered = roster.registered
  entries : ∀ entry ∈ next.entries, ∃ before ∈ roster.entries,
    before.name = entry.name ∧ before.registration = entry.registration
  tasks : ∀ task ∈ roster.tasks, ∃ later ∈ next.tasks, later.id = task.id ∧
    later.registration = task.registration ∧ later.period = task.period ∧
    (task.cancelled = true → later.cancelled = true)

namespace Continues

variable {roster next last : Roster}

theorem refl (roster : Roster) : roster.Continues roster where
  registered := rfl
  entries entry member := ⟨entry, member, rfl, rfl⟩
  tasks task member := ⟨task, member, rfl, rfl, rfl, id⟩

theorem trans (first : roster.Continues next) (second : next.Continues last) :
    roster.Continues last where
  registered := second.registered.trans first.registered
  entries entry member := by
    obtain ⟨between, betweenMember, name, registration⟩ := second.entries entry member
    obtain ⟨before, beforeMember, nameBefore, registrationBefore⟩ :=
      first.entries between betweenMember
    exact ⟨before, beforeMember, nameBefore.trans name, registrationBefore.trans registration⟩
  tasks task member := by
    obtain ⟨between, betweenMember, id, registration, period, cancelled⟩ := first.tasks task member
    obtain ⟨later, laterMember, laterId, laterRegistration, laterPeriod, laterCancelled⟩ :=
      second.tasks between betweenMember
    exact ⟨later, laterMember, laterId.trans id, laterRegistration.trans registration,
      laterPeriod.trans period, laterCancelled ∘ cancelled⟩

/-- Tasks may be changed one by one. -/
theorem of_map_tasks (change : Task → Task)
    (same : ∀ task ∈ roster.tasks, (change task).id = task.id ∧
      (change task).registration = task.registration ∧ (change task).period = task.period ∧
      (task.cancelled = true → (change task).cancelled = true))
    (registered : next.registered = roster.registered) (entries : next.entries = roster.entries)
    (tasks : next.tasks = roster.tasks.map change) : roster.Continues next where
  registered := registered
  entries entry member := ⟨entry, entries ▸ member, rfl, rfl⟩
  tasks task member := by
    rw [tasks]
    exact ⟨change task, List.mem_map_of_mem member, same task member⟩

theorem marks (continues : roster.Continues next) (marks : next.Marks last) :
    roster.Continues last := by
  obtain ⟨change, tasks, marked⟩ := marks.tasks
  refine continues.trans (of_map_tasks change (fun task _ => ?_) marks.registered marks.entries
    tasks)
  obtain ⟨cancelled, aborted, same, grows, -⟩ := marked task
  rw [same]
  exact ⟨rfl, rfl, rfl, grows⟩

/-- An entry may be replaced by one that stands for the same registration. -/
theorem setEntry (continues : roster.Continues next) {changed : Entry}
    (before : ∃ entry ∈ roster.entries,
      entry.name = changed.name ∧ entry.registration = changed.registration) :
    roster.Continues (next.setEntry changed) where
  registered := continues.registered
  entries other otherMember := by
    rcases eq_or_mem_of_mem_putEntry otherMember with rfl | old
    · exact before
    · exact continues.entries other old
  tasks := continues.tasks

theorem start (continues : roster.Continues next) {changed : Entry} (time : Nat)
    (before : ∃ entry ∈ roster.entries,
      entry.name = changed.name ∧ entry.registration = changed.registration) :
    roster.Continues (next.start changed time) where
  registered := continues.registered
  entries other otherMember := by
    rcases eq_or_mem_of_mem_putEntry otherMember with rfl | old
    · exact before
    · exact continues.entries other old
  tasks task taskMember := by
    obtain ⟨later, laterMember, same⟩ := continues.tasks task taskMember
    exact ⟨later, List.mem_append_left _ laterMember, same⟩

theorem halt (continues : roster.Continues next) {entry : Entry}
    (member : entry ∈ roster.entries) : roster.Continues (next.halt entry) :=
  ((continues.marks (marks_cancelToken _ _)).marks (marks_abortHandle _ _)).setEntry
    ⟨entry, member, rfl, rfl⟩

/-- What holds for every entry of a snapshot holds for all of them, one after the other. -/
theorem foldl {step : Roster → Entry → Roster}
    (each : ∀ next, roster.Continues next → ∀ entry ∈ roster.entries,
      roster.Continues (step next entry))
    (continues : roster.Continues next) (pending : List Entry)
    (snapshot : ∀ entry ∈ pending, entry ∈ roster.entries) :
    roster.Continues (pending.foldl step next) := by
  induction pending generalizing next with
  | nil => exact continues
  | cons entry rest inductionHypothesis =>
    exact inductionHypothesis (each next continues entry (snapshot entry List.mem_cons_self))
      fun other waits => snapshot other (List.mem_cons_of_mem _ waits)

theorem of_moved {handed : List Nat} (sound : roster.Sound handed) {task : Task} {phase : Phase}
    (moved : roster.Moved next task phase) : roster.Continues next := by
  refine of_map_tasks _ (fun other member => ?_) moved.registered moved.entries moved.tasks
  by_cases own : other.id = task.id
  · rw [if_pos own, sound.task_eq_of_id_eq member moved.member own]
    exact ⟨rfl, rfl, rfl, fun cancelled => cancelled⟩
  · rw [if_neg own]
    exact ⟨rfl, rfl, rfl, fun cancelled => cancelled⟩

/-- Only registration does more. -/
theorem perform {handed : List Nat} (sound : roster.Sound handed) (request : Request)
    (other : request.registers = []) :
    roster.Continues (roster.perform request).1 := by
  have steps := perform_of_isStep roster request
  cases request with
  | register name plan interval required => cases other
  | startAll time =>
    have each (next : Roster) (continues : roster.Continues next) (entry : Entry)
        (member : entry ∈ roster.entries) : roster.Continues (next.start entry time) :=
      continues.start time ⟨entry, member, rfl, rfl⟩
    exact foldl each (refl roster) _ fun entry found => (List.mem_filter.mp found).1
  | stopAll =>
    have each (next : Roster) (continues : roster.Continues next) (entry : Entry)
        (member : entry ∈ roster.entries) :
        roster.Continues ((next.cancelToken entry).setEntry (stopped entry)) :=
      (continues.marks (marks_cancelToken _ _)).setEntry ⟨entry, member, rfl, rfl⟩
    exact foldl each (refl roster) _ fun entry found => (List.mem_filter.mp found).1
  | enable name time now =>
    rcases roster.perform_enable name time now with
      unchanged | ⟨entry, member, -, interval, -, started⟩
    · rw [unchanged]
      exact refl roster
    · rw [started]
      exact (refl roster).start time ⟨entry, member, rfl, rfl⟩
  | disable name now =>
    rcases roster.perform_disable name now with unchanged | ⟨entry, member, disabled⟩
    · rw [unchanged]
      exact refl roster
    · rw [disabled]
      exact ((refl roster).halt member).setEntry ⟨entry, member, rfl, rfl⟩
  | changeInterval name seconds time =>
    rcases roster.perform_changeInterval name seconds time with
      unchanged | ⟨-, entry, member, restarted | ⟨-, changed⟩⟩
    · rw [unchanged]
      exact refl roster
    · rw [restarted]
      exact ((refl roster).halt member).start time ⟨entry, member, rfl, rfl⟩
    · rw [changed]
      exact (refl roster).setEntry ⟨entry, member, rfl, rfl⟩
  | step | stepHeedless =>
    rcases steps rfl with unchanged | ⟨task, phase, moved⟩
    · rw [unchanged]
      exact refl roster
    · exact of_moved sound moved
  | shutdown =>
    exact of_map_tasks id (fun _ _ => ⟨rfl, rfl, rfl, fun cancelled => cancelled⟩) rfl rfl
      (List.map_id _).symm

end Continues

/-! ### Registrations -/

/-- The latest registration of a name. -/
structure IsLatest (registered : List (String × Plan)) (name : String) (index : Nat) : Prop where
  named : (registered[index]?).map (·.1) = some name
  latest : ∀ later, index < later → (registered[later]?).map (·.1) ≠ some name

theorem IsLatest.append {registered : List (String × Plan)} {name other : String} {index : Nat}
    (latest : IsLatest registered name index) (plan : Plan) (different : name ≠ other) :
    IsLatest (registered ++ [(other, plan)]) name index where
  named := by
    have within : index < registered.length := by
      by_contra beyond
      have named := latest.named
      rw [List.getElem?_eq_none (Nat.le_of_not_lt beyond)] at named
      cases named
    rw [List.getElem?_append_left within]
    exact latest.named
  latest later after := by
    rcases Nat.lt_trichotomy later registered.length with within | rfl | beyond
    · rw [List.getElem?_append_left within]
      exact latest.latest later after
    · rw [List.getElem?_concat_length]
      intro same
      exact different (Option.some.inj same).symm
    · rw [List.getElem?_eq_none (by rw [List.length_append, List.length_singleton]; omega)]
      nofun

theorem IsLatest.new (registered : List (String × Plan)) (name : String) (plan : Plan) :
    IsLatest (registered ++ [(name, plan)]) name registered.length where
  named := by
    rw [List.getElem?_concat_length]
    rfl
  latest later after := by
    rw [List.getElem?_eq_none (by rw [List.length_append, List.length_singleton]; omega)]
    nofun

/-- A registration is added, its entry takes the place of the one that had its name, and every
task stays, cancelled or not. -/
theorem register_eq (roster : Roster) (name : String) (plan : Plan) (interval : UInt64)
    (required : Bool) :
    (roster.register name plan interval required).registered =
        roster.registered ++ [(name, plan)] ∧
      (∃ entry, entry.name = name ∧ entry.registration = roster.registered.length ∧
        (roster.register name plan interval required).entries = putEntry entry roster.entries) ∧
      ∀ task ∈ roster.tasks, ∃ later ∈ (roster.register name plan interval required).tasks,
        later.id = task.id ∧ later.registration = task.registration ∧
          later.period = task.period ∧ (task.cancelled = true → later.cancelled = true) := by
  have length : roster.registrations.length = roster.registered.length :=
    (List.length_map _).symm
  unfold register
  cases roster.entry? name with
  | none =>
    refine ⟨by simp [registered, setEntry], ⟨_, ?_, ?_, rfl⟩, fun task member => ?_⟩
    · rfl
    · exact length
    · exact ⟨task, member, rfl, rfl, rfl, fun cancelled => cancelled⟩
  | some previous =>
    refine ⟨by simp [registered, setEntry], ⟨_, ?_, ?_, by simp [setEntry]; rfl⟩, ?_⟩
    · rfl
    · exact length
    · have added := Continues.refl
        { roster with registrations := roster.registrations ++ [⟨name, plan, 0, 0, 0, none⟩] }
      exact ((added.marks (marks_cancelToken _ _)).marks (marks_abortHandle _ _)).tasks

namespace Sound

variable {roster : Roster} {handed : List Nat}

theorem registered_perform (sound : roster.Sound handed) (request : Request) :
    (roster.perform request).1.registered = roster.registered ++ request.registers := by
  cases request with
  | register name plan interval required => exact (roster.register_eq name plan interval required).1
  | _ => exact (Continues.perform sound _ rfl).registered.trans (List.append_nil _).symm

/-- Every entry stands for the latest registration of its name, if it did so before. -/
theorem latest_perform (sound : roster.Sound handed) (request : Request)
    (latest : ∀ entry ∈ roster.entries, IsLatest roster.registered entry.name entry.registration) :
    ∀ entry ∈ (roster.perform request).1.entries,
      IsLatest (roster.perform request).1.registered entry.name entry.registration := by
  have unregistered {next : Roster} (continues : roster.Continues next) :
      ∀ entry ∈ next.entries, IsLatest next.registered entry.name entry.registration := by
    intro entry member
    obtain ⟨before, beforeMember, name, index⟩ := continues.entries entry member
    rw [continues.registered, ← name, ← index]
    exact latest before beforeMember
  cases request with
  | register name plan interval required =>
    intro entry member
    obtain ⟨registered, ⟨new, newName, newRegistration, entries⟩, -⟩ :=
      roster.register_eq name plan interval required
    show IsLatest (roster.register name plan interval required).registered _ _
    have member : entry ∈ (roster.register name plan interval required).entries := member
    rw [entries] at member
    rw [registered]
    rcases (mem_putEntry new sound.distinctNames entry).mp member with rfl | ⟨old, different⟩
    · rw [newName, newRegistration]
      exact IsLatest.new _ _ _
    · exact (latest entry old).append plan (newName ▸ different)
  | _ => exact unregistered (Continues.perform sound _ rfl)

/-- No request forgets a task. -/
theorem tasks_perform (sound : roster.Sound handed) (request : Request) :
    ∀ task ∈ roster.tasks, ∃ later ∈ (roster.perform request).1.tasks, later.id = task.id ∧
      later.registration = task.registration ∧ later.period = task.period ∧
      (task.cancelled = true → later.cancelled = true) := by
  cases request with
  | register name plan interval required =>
    exact (roster.register_eq name plan interval required).2.2
  | _ => exact (Continues.perform sound _ rfl).tasks

end Sound

/-! ### Where tasks come from -/

/-- Every task was there before, and ran the same registration at the same period. -/
def Inherits (roster next : Roster) : Prop :=
  ∀ task ∈ next.tasks, ∃ earlier ∈ roster.tasks, earlier.id = task.id ∧
    earlier.registration = task.registration ∧ earlier.period = task.period

namespace Inherits

variable {roster next last : Roster}

theorem of_tasks (tasks : next.tasks = roster.tasks) : roster.Inherits next :=
  fun task member => ⟨task, tasks ▸ member, rfl, rfl, rfl⟩

theorem trans (first : roster.Inherits next) (second : next.Inherits last) :
    roster.Inherits last := by
  intro task member
  obtain ⟨between, betweenMember, id, registration, period⟩ := second task member
  obtain ⟨earlier, earlierMember, sameId, sameRegistration, samePeriod⟩ :=
    first between betweenMember
  exact ⟨earlier, earlierMember, sameId.trans id, sameRegistration.trans registration,
    samePeriod.trans period⟩

theorem of_marks (marks : roster.Marks next) : roster.Inherits next := by
  obtain ⟨change, tasks, marked⟩ := marks.tasks
  intro task member
  rw [tasks] at member
  obtain ⟨earlier, earlierMember, rfl⟩ := List.mem_map.mp member
  obtain ⟨cancelled, aborted, same, -⟩ := marked earlier
  rw [same]
  exact ⟨earlier, earlierMember, rfl, rfl, rfl⟩

theorem setEntry (inherits : roster.Inherits next) (entry : Entry) :
    roster.Inherits (next.setEntry entry) := inherits

theorem give (roster : Roster) (entry next : Entry) :
    roster.Inherits (((roster.cancelToken entry).abortHandle entry).setEntry next) :=
  ((of_marks (marks_cancelToken roster entry)).trans
    (of_marks (marks_abortHandle _ entry))).setEntry next

theorem of_moved {task : Task} {phase : Phase} (moved : roster.Moved next task phase) :
    roster.Inherits next := by
  intro later member
  rw [moved.tasks] at member
  obtain ⟨earlier, earlierMember, rfl⟩ := List.mem_map.mp member
  by_cases own : earlier.id = task.id
  · rw [if_pos own]
    exact ⟨task, moved.member, rfl, rfl, rfl⟩
  · rw [if_neg own]
    exact ⟨earlier, earlierMember, rfl, rfl, rfl⟩

end Inherits

/-- When a request starts tasks, if it does. -/
def Request.startsAt? : Request → Option Nat
  | .startAll time | .enable _ time _ | .changeInterval _ _ time => some time
  | _ => none

/-- Every task was there before or has just been started. -/
def Renews (roster next : Roster) (startsAt? : Option Nat) : Prop :=
  ∀ task ∈ next.tasks,
    (∃ id registration period time, startsAt? = some time ∧
      task = Task.start id registration period time) ∨
    ∃ earlier ∈ roster.tasks, earlier.id = task.id ∧
      earlier.registration = task.registration ∧ earlier.period = task.period

namespace Renews

variable {roster next : Roster}

theorem of_inherits (inherits : roster.Inherits next) (startsAt? : Option Nat) :
    roster.Renews next startsAt? :=
  fun task member => .inr (inherits task member)

theorem start {time : Nat} (renews : roster.Renews next (some time)) (entry : Entry) :
    roster.Renews (next.start entry time) (some time) := by
  intro task member
  rcases List.mem_append.mp member with old | new
  · exact renews task old
  · exact .inl ⟨_, _, _, time, rfl, List.mem_singleton.mp new⟩

/-- A request starts tasks anew or gives up tasks. -/
theorem perform (roster : Roster) (request : Request) :
    roster.Renews (roster.perform request).1 request.startsAt? := by
  have unchanged (startsAt? : Option Nat) : roster.Renews roster startsAt? :=
    of_inherits (.of_tasks rfl) startsAt?
  have steps := perform_of_isStep roster request
  cases request with
  | register name plan interval required =>
    refine of_inherits ?_ _
    show roster.Inherits (roster.register name plan interval required)
    unfold register
    cases roster.entry? name with
    | none => exact .of_tasks rfl
    | some previous => exact (Inherits.of_tasks rfl).trans (Inherits.give _ previous _)
  | startAll time =>
    exact List.foldlRecOn (motive := (roster.Renews · (some time))) _ _ (unchanged _)
      fun _ renews entry _ => renews.start entry
  | stopAll =>
    have kept : roster.Inherits roster := .of_tasks rfl
    exact of_inherits (List.foldlRecOn _ _ kept fun _ inherits entry _ =>
      (inherits.trans (.of_marks (marks_cancelToken _ entry))).setEntry (stopped entry)) _
  | enable name time now =>
    rcases roster.perform_enable name time now with same | ⟨entry, -, -, interval, -, started⟩
    · rw [same]
      exact unchanged _
    · rw [started]
      exact (unchanged (some time)).start _
  | disable name now =>
    rcases roster.perform_disable name now with same | ⟨entry, -, disabled⟩
    · rw [same]
      exact unchanged _
    · rw [disabled]
      exact of_inherits (Inherits.give roster entry (stopped entry)) _
  | changeInterval name seconds time =>
    rcases roster.perform_changeInterval name seconds time with
      same | ⟨-, entry, -, restarted | ⟨-, changed⟩⟩
    · rw [same]
      exact unchanged _
    · rw [restarted]
      exact (of_inherits (Inherits.give roster entry (stopped entry)) (some time)).start _
    · rw [changed]
      exact of_inherits (.of_tasks rfl) _
  | step | stepHeedless =>
    rcases steps rfl with same | ⟨task, phase, moved⟩
    · rw [same]
      exact unchanged _
    · exact of_inherits (.of_moved moved) _
  | shutdown => exact of_inherits (.of_tasks rfl) _

end Renews

/-! ### Every task -/

/-- The roster after a list of requests. -/
def after (requests : List Request) : Roster := Machine.run perform .empty requests

theorem after_concat (past : List Request) (request : Request) :
    after (past ++ [request]) = ((after past).perform request).1 :=
  Machine.run_concat perform .empty past request

theorem sound_after (requests : List Request) :
    (after requests).Sound (handedBack .empty requests) :=
  Sound.run requests

theorem registered_after (requests : List Request) :
    (after requests).registered = requests.flatMap Request.registers := by
  induction requests using List.reverseRecOn with
  | nil => rfl
  | append_singleton past request inductionHypothesis =>
    rw [after_concat, (sound_after past).registered_perform, List.flatMap_append,
      List.flatMap_singleton]
    exact congrArg (· ++ request.registers) inductionHypothesis

theorem latest_after (requests : List Request) : ∀ entry ∈ (after requests).entries,
    IsLatest (requests.flatMap Request.registers) entry.name entry.registration := by
  rw [← registered_after]
  exact Machine.run_invariant perform
    (fun roster => (∃ handed, roster.Sound handed) ∧
      ∀ entry ∈ roster.entries, IsLatest roster.registered entry.name entry.registration)
    (fun roster request ⟨⟨handed, sound⟩, latest⟩ =>
      ⟨⟨_, sound.perform request⟩, sound.latest_perform request latest⟩)
    ⟨⟨[], Sound.empty⟩, fun _ member => by cases member⟩ requests |>.2

/-- The name under which the collector of a task was registered. -/
def collectorOf (roster : Roster) (task : Task) : Option String :=
  (roster.registered[task.registration]?).map (·.1)

/-- A task that was not cancelled is owned by the entry of its collector. -/
theorem owner_after (requests : List Request) {task : Task}
    (member : task ∈ (after requests).tasks) (uncancelled : task.cancelled = false) :
    ∃ entry, Roster.entry? (after requests) entry.name = some entry ∧ entry.Owns task ∧
      (after requests).collectorOf task = some entry.name := by
  have sound := sound_after requests
  obtain ⟨entry, entryMember, owns⟩ := sound.owned task member uncancelled
  refine ⟨entry, (entry?_eq_some_iff sound.distinctNames _ _).mpr ⟨entryMember, rfl⟩, owns, ?_⟩
  rw [collectorOf, registered_after, owns.registration]
  exact (latest_after requests entry entryMember).named

/-- No run forgets a task. -/
theorem tasks_after_append (past future : List Request) :
    ∀ task ∈ (after past).tasks, ∃ later ∈ (after (past ++ future)).tasks, later.id = task.id ∧
      later.registration = task.registration ∧ later.period = task.period ∧
      (task.cancelled = true → later.cancelled = true) := by
  induction future using List.reverseRecOn with
  | nil =>
    intro task member
    rw [List.append_nil]
    exact ⟨task, member, rfl, rfl, rfl, fun cancelled => cancelled⟩
  | append_singleton before request inductionHypothesis =>
    intro task member
    obtain ⟨between, betweenMember, id, registration, period, cancelled⟩ :=
      inductionHypothesis task member
    obtain ⟨later, laterMember, laterId, laterRegistration, laterPeriod, laterCancelled⟩ :=
      (sound_after (past ++ before)).tasks_perform request between betweenMember
    rw [← List.append_assoc, after_concat]
    exact ⟨later, laterMember, laterId.trans id, laterRegistration.trans registration,
      laterPeriod.trans period, laterCancelled ∘ cancelled⟩

/-- Every task is accounted for. A collector is running if and only if its entry holds a token and
a handle, and these are of one task, which was not cancelled; it is then enabled and has an
interval. A task that was not cancelled is owned by the current entry of its name and runs the
latest registration of that name at the interval that is reported, so no name has two of them. A
cancelled task was either aborted or handed back by exactly one request to stop all collectors. No
task is forgotten. -/
theorem tasks_accounted_for (requests : List Request) :
    (after requests).registered = requests.flatMap Request.registers ∧
    ((after requests).entries.map (·.name)).Nodup ∧
    ((after requests).tasks.map (·.id)).Nodup ∧
    (∀ entry ∈ (after requests).entries,
      (entry.state = .running ↔ entry.token.isSome = true ∧ entry.handle.isSome = true) ∧
      (entry.state = .running → entry.enabled = true ∧ 0 < entry.interval ∧
        ∃ task ∈ (after requests).tasks, entry.token = some task.id ∧
          entry.handle = some task.id ∧ task.cancelled = false)) ∧
    (∀ task ∈ (after requests).tasks,
      (∃ entry, Roster.entry? (after requests) entry.name = some entry ∧
        entry.token = some task.id ∧ entry.handle = some task.id ∧ task.cancelled = false ∧
        IsLatest (requests.flatMap Request.registers) entry.name task.registration ∧
        task.period = ((after requests).statusOf entry).interval.toNat * 1000) ∨
      task.cancelled = true) ∧
    (∀ task ∈ (after requests).tasks, ∀ other ∈ (after requests).tasks,
      task.cancelled = false → other.cancelled = false →
      ((requests.flatMap Request.registers)[task.registration]?).map (·.1) =
        ((requests.flatMap Request.registers)[other.registration]?).map (·.1) →
      task = other) ∧
    (∀ task ∈ (after requests).tasks, task.cancelled = true →
      task.aborted = true ∧ (handedBack .empty requests).count task.id = 0 ∨
      task.aborted = false ∧ (handedBack .empty requests).count task.id = 1) ∧
    (∀ past future, requests = past ++ future → ∀ task ∈ (after past).tasks,
      ∃ later ∈ (after requests).tasks, later.id = task.id ∧
        later.registration = task.registration ∧ later.period = task.period ∧
        (task.cancelled = true → later.cancelled = true)) := by
  have sound := sound_after requests
  have latest := latest_after requests
  have owner (task : Task) (member : task ∈ (after requests).tasks)
      (uncancelled : task.cancelled = false) : ∃ entry ∈ (after requests).entries,
        entry.Owns task ∧
          IsLatest (requests.flatMap Request.registers) entry.name task.registration := by
    obtain ⟨entry, entryMember, owns⟩ := sound.owned task member uncancelled
    exact ⟨entry, entryMember, owns, owns.registration ▸ latest entry entryMember⟩
  refine ⟨registered_after requests, sound.distinctNames, sound.taskIds ▸ List.nodup_range,
    fun entry member => ?_, fun task member => ?_, ?_, fun task member cancelled => ?_, ?_⟩
  · rcases sound.kept entry member with idle | ⟨task, taskMember, owns⟩
    · refine ⟨⟨fun running => absurd running idle.state, fun held => ?_⟩,
        fun running => absurd running idle.state⟩
      rw [idle.token] at held
      cases held.1
    · refine ⟨⟨fun _ => ?_, fun _ => owns.state⟩, fun _ => ⟨owns.enabled, owns.interval, task,
        taskMember, owns.token, owns.handle, owns.uncancelled⟩⟩
      rw [owns.token, owns.handle]
      exact ⟨rfl, rfl⟩
  · cases cancelled : task.cancelled with
    | true => exact .inr rfl
    | false =>
      obtain ⟨entry, entryMember, owns, isLatest⟩ := owner task member cancelled
      exact .inl ⟨entry, (entry?_eq_some_iff sound.distinctNames _ _).mpr ⟨entryMember, rfl⟩,
        owns.token, owns.handle, rfl, isLatest, owns.period⟩
  · intro task member other otherMember uncancelled otherUncancelled sameName
    obtain ⟨entry, entryMember, owns, isLatest⟩ := owner task member uncancelled
    obtain ⟨otherEntry, otherEntryMember, otherOwns, otherLatest⟩ :=
      owner other otherMember otherUncancelled
    rw [isLatest.named, otherLatest.named] at sameName
    have same := sound.entry_eq_of_name_eq entryMember otherEntryMember (Option.some.inj sameName)
    subst same
    exact sound.task_eq_of_id_eq member otherMember
      (Option.some.inj (owns.token.symm.trans otherOwns.token))
  · have settled := sound.settled task member
    rw [cancelled] at settled
    cases aborted : task.aborted with
    | true => exact .inl ⟨rfl, by rw [settled, aborted]; rfl⟩
    | false => exact .inr ⟨rfl, by rw [settled, aborted]; rfl⟩
  · rintro past future rfl
    exact tasks_after_append past future

/-- The task of a collector is aborted when its interval changes; the one started instead is handed
back. -/
theorem tasks_of_restart :
    let requests : List Request :=
      [.register "disk" (Plan.ofList []) 30 false, .startAll 0, .changeInterval "disk" 60 5,
        .stopAll]
    (handedBack .empty requests).count 0 = 0 ∧ (handedBack .empty requests).count 1 = 1 := by
  intro requests
  have tasks : (after requests).tasks =
      [⟨0, 0, 30000, true, true, .waiting 0⟩, ⟨1, 0, 60000, true, false, .waiting 5⟩] := by rfl
  obtain ⟨-, -, -, -, -, -, settled, -⟩ := tasks_accounted_for requests
  rw [tasks] at settled
  refine ⟨?_, ?_⟩
  · exact (settled _ List.mem_cons_self rfl).elim And.right nofun
  · exact (settled _ (List.mem_cons_of_mem _ List.mem_cons_self) rfl).elim nofun And.right

end ServerMonitor.Roster
