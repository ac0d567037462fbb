/-
This file shows who owns the tasks of the collectors. An entry is either idle,
and holds neither token nor handle, or it owns one task, which runs at the entry's
interval. A task that no entry owns was cancelled; its handle was either aborted
or handed back once. Every change of the roster is put together from three: to
replace an idle entry, to release the task of an entry, and to start one.
-/

import ServerMonitor.Proofs.Collector.Entries

namespace ServerMonitor

open Collector

namespace Collector

/-- An entry without a task. -/
structure Entry.Idle (entry : Entry) : Prop where
  state : entry.state ≠ .running
  token : entry.token = none
  handle : entry.handle = none

/-- An entry that runs a task. -/
structure Entry.Owns (entry : Entry) (task : Task) : Prop where
  state : entry.state = .running
  token : entry.token = some task.id
  handle : entry.handle = some task.id
  enabled : entry.enabled = true
  interval : 0 < entry.interval
  registration : task.registration = entry.registration
  period : task.period = entry.interval.toNat * 1000
  uncancelled : task.cancelled = false
  unaborted : task.aborted = false

end Collector

namespace Roster

/-- Cancels the task that an entry holds, and aborts it if asked to, and puts another entry in
its place. -/
def release (roster : Roster) (entry : Entry) (abort : Bool) (next : Entry) : Roster :=
  { roster with
    entries := putEntry next roster.entries
    tasks := roster.tasks.map fun task =>
      if entry.handle = some task.id then
        { task with cancelled := true, aborted := abort || task.aborted }
      else task }

theorem cancelToken_setEntry (roster : Roster) {entry : Entry} (same : entry.token = entry.handle)
    (next : Entry) :
    (roster.cancelToken entry).setEntry next = roster.release entry false next := by
  unfold cancelToken release
  rw [same]
  cases entry.handle with
  | none => simp [setEntry]
  | some id => simp [setEntry, updateTask, Task.cancel, eq_comm]

theorem cancelToken_abortHandle_setEntry (roster : Roster) {entry : Entry}
    (same : entry.token = entry.handle) (next : Entry) :
    ((roster.cancelToken entry).abortHandle entry).setEntry next =
      roster.release entry true next := by
  unfold cancelToken abortHandle release
  rw [same]
  cases entry.handle with
  | none => simp [setEntry]
  | some id =>
    simp only [setEntry, updateTask, abortTasks, Task.cancel, List.map_map]
    congr 1
    refine List.map_congr_left fun task _ => ?_
    by_cases own : id = task.id
    · subst own
      simp
    · have other : task.id ≠ id := fun same => own same.symm
      simp [own, other]

/-- What every roster keeps, together with the tasks that were handed back so far. -/
structure Sound (roster : Roster) (handed : List Nat) : Prop where
  distinctNames : (roster.entries.map (·.name)).Nodup
  taskIds : roster.tasks.map (·.id) = List.range roster.tasks.length
  kept : ∀ entry ∈ roster.entries, entry.Idle ∨ ∃ task ∈ roster.tasks, entry.Owns task
  owned : ∀ task ∈ roster.tasks, task.cancelled = false →
    ∃ entry ∈ roster.entries, entry.Owns task
  /-- No task has two owners. -/
  oneOwner : ∀ entry ∈ roster.entries, ∀ other ∈ roster.entries, ∀ id,
    entry.token = some id → other.token = some id → entry = other
  /-- A task was handed back exactly if it was cancelled and not aborted, and then once. -/
  settled : ∀ task ∈ roster.tasks,
    handed.count task.id = if task.cancelled && !task.aborted then 1 else 0
  handedKnown : ∀ id ∈ handed, id < roster.tasks.length

theorem Sound.empty : Roster.empty.Sound [] where
  distinctNames := List.nodup_nil
  taskIds := rfl
  kept _ member := by cases member
  owned _ member := by cases member
  oneOwner _ member := by cases member
  settled _ member := by cases member
  handedKnown _ member := by cases member

namespace Sound

variable {roster : Roster} {handed : List Nat}

theorem task_id_lt (sound : roster.Sound handed) {task : Task} (member : task ∈ roster.tasks) :
    task.id < roster.tasks.length := by
  rw [← List.mem_range, ← sound.taskIds]
  exact List.mem_map_of_mem member

theorem task_eq_of_id_eq (sound : roster.Sound handed) {task other : Task}
    (member : task ∈ roster.tasks) (otherMember : other ∈ roster.tasks)
    (same : task.id = other.id) : task = other :=
  List.inj_on_of_nodup_map (sound.taskIds ▸ List.nodup_range) member otherMember same

theorem task?_of_mem (sound : roster.Sound handed) {task : Task} (member : task ∈ roster.tasks) :
    roster.task? task.id = some task := by
  obtain ⟨other, found⟩ : ∃ other, roster.task? task.id = some other :=
    Option.isSome_iff_exists.mp (List.find?_isSome.mpr ⟨task, member, decide_eq_true rfl⟩)
  rwa [sound.task_eq_of_id_eq (List.mem_of_find?_eq_some found) member
    (by simpa using List.find?_some found)] at found

theorem entry_eq_of_name_eq (sound : roster.Sound handed) {entry other : Entry}
    (member : entry ∈ roster.entries) (otherMember : other ∈ roster.entries)
    (same : entry.name = other.name) : entry = other :=
  List.inj_on_of_nodup_map sound.distinctNames member otherMember same

theorem token_eq_handle (sound : roster.Sound handed) {entry : Entry}
    (member : entry ∈ roster.entries) : entry.token = entry.handle := by
  rcases sound.kept entry member with idle | ⟨task, -, owns⟩
  · rw [idle.token, idle.handle]
  · rw [owns.token, owns.handle]

theorem idle_of_not_running (sound : roster.Sound handed) {entry : Entry}
    (member : entry ∈ roster.entries) (state : entry.state ≠ .running) : entry.Idle := by
  rcases sound.kept entry member with idle | ⟨task, -, owns⟩
  · exact idle
  · exact absurd owns.state state

/-- The task whose handle an entry holds. -/
theorem owns_of_handle (sound : roster.Sound handed) {entry : Entry}
    (member : entry ∈ roster.entries) {task : Task} (taskMember : task ∈ roster.tasks)
    (held : entry.handle = some task.id) : entry.Owns task := by
  rcases sound.kept entry member with idle | ⟨other, otherMember, owns⟩
  · rw [idle.handle] at held
    cases held
  · rw [owns.handle] at held
    rwa [← sound.task_eq_of_id_eq otherMember taskMember (Option.some.inj held)]

/-- The invariant says nothing about what tasks are doing. -/
theorem of_map_tasks (sound : roster.Sound handed) {next : Roster} (change : Task → Task)
    (same : ∀ task ∈ roster.tasks, ∃ phase, change task = { task with phase })
    (entries : next.entries = roster.entries) (tasks : next.tasks = roster.tasks.map change) :
    next.Sound handed := by
  have owns (entry : Entry) (task : Task) (member : task ∈ roster.tasks) :
      entry.Owns (change task) ↔ entry.Owns task := by
    obtain ⟨phase, equal⟩ := same task member
    rw [equal]
    exact ⟨fun owner => { owner with }, fun owner => { owner with }⟩
  constructor
  · rw [entries]
    exact sound.distinctNames
  · rw [tasks, List.length_map, ← sound.taskIds, List.map_map]
    refine List.map_congr_left fun task member => ?_
    obtain ⟨phase, equal⟩ := same task member
    show (change task).id = task.id
    rw [equal]
  · rw [entries, tasks]
    intro entry member
    refine (sound.kept entry member).imp_right fun ⟨task, taskMember, owner⟩ => ?_
    exact ⟨change task, List.mem_map_of_mem taskMember, (owns entry task taskMember).mpr owner⟩
  · rw [entries, tasks]
    intro moved member uncancelled
    obtain ⟨task, taskMember, rfl⟩ := List.mem_map.mp member
    obtain ⟨phase, equal⟩ := same task taskMember
    obtain ⟨entry, entryMember, owner⟩ := sound.owned task taskMember
      (by rw [equal] at uncancelled; exact uncancelled)
    exact ⟨entry, entryMember, (owns entry task taskMember).mpr owner⟩
  · rw [entries]
    exact sound.oneOwner
  · rw [tasks]
    intro moved member
    obtain ⟨task, taskMember, rfl⟩ := List.mem_map.mp member
    obtain ⟨phase, equal⟩ := same task taskMember
    rw [equal]
    exact sound.settled task taskMember
  · rw [tasks, List.length_map]
    exact sound.handedKnown

/-- A token that no entry holds yet may be put into one. -/
theorem oneOwner_putEntry (sound : roster.Sound handed) {next : Entry}
    (fresh : ∀ id, next.token = some id → ∀ other ∈ roster.entries, other.token ≠ some id) :
    ∀ entry ∈ putEntry next roster.entries, ∀ other ∈ putEntry next roster.entries, ∀ id,
      entry.token = some id → other.token = some id → entry = other := by
  intro entry member other otherMember id token otherToken
  rcases eq_or_mem_of_mem_putEntry member with rfl | old
  · rcases eq_or_mem_of_mem_putEntry otherMember with rfl | otherOld
    · rfl
    · exact absurd otherToken (fresh id token other otherOld)
  · rcases eq_or_mem_of_mem_putEntry otherMember with rfl | otherOld
    · exact absurd token (fresh id otherToken entry old)
    · exact sound.oneOwner entry old other otherOld id token otherToken

/-- The number of the next task is no token yet. -/
theorem token_ne_length (sound : roster.Sound handed) {entry : Entry}
    (member : entry ∈ roster.entries) : entry.token ≠ some roster.tasks.length := by
  intro token
  rcases sound.kept entry member with idle | ⟨task, taskMember, owns⟩
  · cases idle.token.symm.trans token
  · have same := Option.some.inj (owns.token.symm.trans token)
    have := sound.task_id_lt taskMember
    omega

/-- An idle entry, or none, is replaced by an idle one. -/
theorem setEntry (sound : roster.Sound handed) {next : Entry} (idle : next.Idle)
    (before : ∀ entry ∈ roster.entries, entry.name = next.name → entry.Idle) :
    (roster.setEntry next).Sound handed where
  distinctNames := nodup_names_putEntry next sound.distinctNames
  taskIds := sound.taskIds
  kept entry member := by
    rcases (mem_putEntry next sound.distinctNames entry).mp member with rfl | ⟨old, -⟩
    · exact .inl idle
    · exact sound.kept entry old
  owned task member uncancelled := by
    obtain ⟨entry, entryMember, owns⟩ := sound.owned task member uncancelled
    refine ⟨entry, (mem_putEntry next sound.distinctNames entry).mpr (.inr ⟨entryMember, ?_⟩), owns⟩
    intro same
    exact (before entry entryMember same).state owns.state
  oneOwner := sound.oneOwner_putEntry fun id token => by cases idle.token.symm.trans token
  settled := sound.settled
  handedKnown := sound.handedKnown

/-- An entry is started whose name has no task. -/
theorem start (sound : roster.Sound handed) {entry : Entry} (time : Nat)
    (interval : 0 < entry.interval)
    (before : ∀ other ∈ roster.entries, other.name = entry.name → other.Idle) :
    (roster.start entry time).Sound handed := by
  have entryMem (other : Entry) : other ∈ (roster.start entry time).entries ↔
      other = { entry with
        token := some roster.tasks.length
        handle := some roster.tasks.length
        state := .running
        enabled := true } ∨ other ∈ roster.entries ∧ other.name ≠ entry.name :=
    mem_putEntry _ sound.distinctNames other
  have taskMem (task : Task) : task ∈ (roster.start entry time).tasks ↔
      task ∈ roster.tasks ∨ task = Task.start roster.tasks.length entry.registration
        (entry.interval.toNat * 1000) time := by
    show task ∈ roster.tasks ++ [_] ↔ _
    rw [List.mem_append, List.mem_singleton]
  constructor
  · exact nodup_names_putEntry _ sound.distinctNames
  · show (roster.tasks ++ [_]).map _ = List.range (roster.tasks ++ [_]).length
    rw [List.map_append, sound.taskIds, List.length_append, List.length_singleton,
      List.range_succ]
    rfl
  · intro other member
    rcases (entryMem other).mp member with rfl | ⟨old, -⟩
    · exact .inr ⟨_, (taskMem _).mpr (.inr rfl), rfl, rfl, rfl, rfl, interval, rfl, rfl, rfl, rfl⟩
    · exact (sound.kept other old).imp_right fun ⟨task, taskMember, owns⟩ =>
        ⟨task, (taskMem task).mpr (.inl taskMember), owns⟩
  · intro task member uncancelled
    rcases (taskMem task).mp member with old | rfl
    · obtain ⟨owner, ownerMember, owns⟩ := sound.owned task old uncancelled
      refine ⟨owner, (entryMem owner).mpr (.inr ⟨ownerMember, fun same => ?_⟩), owns⟩
      exact (before owner ownerMember same).state owns.state
    · exact ⟨_, (entryMem _).mpr (.inl rfl), rfl, rfl, rfl, rfl, interval, rfl, rfl, rfl, rfl⟩
  · refine sound.oneOwner_putEntry fun id token other member => ?_
    rw [← Option.some.inj token]
    exact sound.token_ne_length member
  · intro task member
    rcases (taskMem task).mp member with old | rfl
    · exact sound.settled task old
    · refine List.count_eq_zero.mpr fun known => ?_
      exact Nat.lt_irrefl _ (sound.handedKnown _ known)
  · intro id known
    show id < (roster.tasks ++ [_]).length
    rw [List.length_append]
    have := sound.handedKnown id known
    omega

/-- A task that is not aborted is handed back when its entry gives it up. -/
theorem release (sound : roster.Sound handed) {entry next : Entry} (abort : Bool)
    (member : entry ∈ roster.entries) (idle : next.Idle) (sameName : next.name = entry.name) :
    (roster.release entry abort next).Sound
      (handed ++ if abort then [] else entry.handle.toList) := by
  have entryMem (other : Entry) : other ∈ (roster.release entry abort next).entries ↔
      other = next ∨ other ∈ roster.entries ∧ other ≠ entry := by
    refine (mem_putEntry next sound.distinctNames other).trans (or_congr_right ?_)
    refine and_congr_right fun otherMember => not_congr ?_
    rw [sameName]
    exact ⟨sound.entry_eq_of_name_eq otherMember member, fun same => by rw [same]⟩
  have others (other : Entry) (otherMember : other ∈ roster.entries) (different : other ≠ entry)
      (task : Task) (owns : other.Owns task) : entry.handle ≠ some task.id := by
    intro held
    refine different (sound.oneOwner other otherMember entry member task.id owns.token ?_)
    rw [sound.token_eq_handle member, held]
  constructor
  · exact nodup_names_putEntry _ sound.distinctNames
  · show (roster.tasks.map _).map _ = List.range (roster.tasks.map _).length
    rw [List.length_map, ← sound.taskIds, List.map_map]
    refine List.map_congr_left fun task _ => ?_
    show Task.id (if _ then _ else _) = _
    split <;> rfl
  · intro other otherMember
    rcases (entryMem other).mp otherMember with rfl | ⟨old, different⟩
    · exact .inl idle
    · refine (sound.kept other old).imp_right fun ⟨task, taskMember, owns⟩ => ⟨task, ?_, owns⟩
      exact List.mem_map.mpr ⟨task, taskMember, if_neg (others other old different task owns)⟩
  · intro moved movedMember uncancelled
    obtain ⟨task, taskMember, rfl⟩ := List.mem_map.mp movedMember
    by_cases held : entry.handle = some task.id
    · rw [if_pos held] at uncancelled
      cases uncancelled
    · rw [if_neg held] at uncancelled ⊢
      obtain ⟨owner, ownerMember, owns⟩ := sound.owned task taskMember uncancelled
      refine ⟨owner, (entryMem owner).mpr (.inr ⟨ownerMember, ?_⟩), owns⟩
      rintro rfl
      exact held owns.handle
  · exact sound.oneOwner_putEntry fun id token => by cases idle.token.symm.trans token
  · intro moved movedMember
    obtain ⟨task, taskMember, rfl⟩ := List.mem_map.mp movedMember
    have before := sound.settled task taskMember
    by_cases held : entry.handle = some task.id
    · have owns := sound.owns_of_handle member taskMember held
      rw [owns.uncancelled] at before
      rw [if_pos held, List.count_append, before, held, owns.unaborted]
      cases abort <;> simp
    · rw [if_neg held, List.count_append, before]
      cases abort with
      | true => rfl
      | false =>
        have notHanded : entry.handle.toList.count task.id = 0 :=
          List.count_eq_zero.mpr fun known => held (Option.mem_toList.mp known)
        simp [notHanded]
  · intro id known
    show id < (roster.tasks.map _).length
    rw [List.length_map]
    rcases List.mem_append.mp known with old | new
    · exact sound.handedKnown id old
    · cases abort with
      | true => cases new
      | false =>
        have held : entry.handle = some id := Option.mem_toList.mp new
        rcases sound.kept entry member with idleBefore | ⟨task, taskMember, owns⟩
        · cases idleBefore.handle.symm.trans held
        · rw [← Option.some.inj (owns.handle.symm.trans held)]
          exact sound.task_id_lt taskMember

end Sound

end Roster

end ServerMonitor
