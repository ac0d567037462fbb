/-
This file gives the laws of the roster's entries. Names are distinct, so there is
one current entry of a name; replacing it leaves the entries of all other names
as they are.
-/

import Mathlib.Data.List.Nodup
import ServerMonitor.Collector.Roster

namespace ServerMonitor.Roster

open Collector

theorem names_putEntry (entry : Entry) (entries : List Entry) :
    (putEntry entry entries).map (·.name) =
      if entry.name ∈ entries.map (·.name) then entries.map (·.name)
      else entries.map (·.name) ++ [entry.name] := by
  induction entries with
  | nil => rfl
  | cons other rest inductionHypothesis =>
    rw [putEntry]
    by_cases same : other.name = entry.name
    · rw [if_pos same, List.map_cons, List.map_cons, same, if_pos List.mem_cons_self]
    · have different : entry.name ≠ other.name := fun equal => same equal.symm
      rw [if_neg same, List.map_cons, inductionHypothesis, List.map_cons]
      by_cases member : entry.name ∈ rest.map (·.name)
      · rw [if_pos member, if_pos (List.mem_cons_of_mem _ member)]
      · rw [if_neg member, if_neg (List.not_mem_cons_of_ne_of_not_mem different member)]
        rfl

theorem nodup_names_putEntry (entry : Entry) {entries : List Entry}
    (distinct : (entries.map (·.name)).Nodup) :
    ((putEntry entry entries).map (·.name)).Nodup := by
  rw [names_putEntry]
  split
  · exact distinct
  · exact List.nodup_append.mpr ⟨distinct, List.nodup_singleton _, fun name member other new => by
      rw [List.mem_singleton.mp new]
      rintro rfl
      contradiction⟩

theorem mem_putEntry (entry : Entry) {entries : List Entry}
    (distinct : (entries.map (·.name)).Nodup) (other : Entry) :
    other ∈ putEntry entry entries ↔
      other = entry ∨ other ∈ entries ∧ other.name ≠ entry.name := by
  induction entries with
  | nil => simp [putEntry]
  | cons first rest inductionHypothesis =>
    obtain ⟨fresh, distinctRest⟩ := List.nodup_cons.mp distinct
    rw [putEntry]
    by_cases same : first.name = entry.name
    · rw [if_pos same, List.mem_cons]
      constructor
      · rintro (rfl | member)
        · exact .inl rfl
        · refine .inr ⟨List.mem_cons_of_mem _ member, fun equal => fresh ?_⟩
          exact List.mem_map.mpr ⟨other, member, equal.trans same.symm⟩
      · rintro (rfl | ⟨member, different⟩)
        · exact .inl rfl
        · rcases List.mem_cons.mp member with rfl | member
          · exact absurd same different
          · exact .inr member
    · rw [if_neg same, List.mem_cons, inductionHypothesis distinctRest]
      constructor
      · rintro (rfl | rfl | ⟨member, different⟩)
        · exact .inr ⟨List.mem_cons_self, same⟩
        · exact .inl rfl
        · exact .inr ⟨List.mem_cons_of_mem _ member, different⟩
      · rintro (rfl | ⟨member, different⟩)
        · exact .inr (.inl rfl)
        · rcases List.mem_cons.mp member with rfl | member
          · exact .inl rfl
          · exact .inr (.inr ⟨member, different⟩)

theorem eq_or_mem_of_mem_putEntry {entry other : Entry} {entries : List Entry}
    (member : other ∈ putEntry entry entries) : other = entry ∨ other ∈ entries := by
  induction entries with
  | nil => exact .inl (List.mem_singleton.mp member)
  | cons first rest inductionHypothesis =>
    rw [putEntry] at member
    split at member
    · exact (List.mem_cons.mp member).imp_right (List.mem_cons_of_mem _)
    · rcases List.mem_cons.mp member with rfl | later
      · exact .inr List.mem_cons_self
      · exact (inductionHypothesis later).imp_right (List.mem_cons_of_mem _)

theorem mem_of_entry?_eq_some {roster : Roster} {name : String} {entry : Entry}
    (found : roster.entry? name = some entry) : entry ∈ roster.entries ∧ entry.name = name :=
  ⟨List.mem_of_find?_eq_some found, by simpa using List.find?_some found⟩

/-- With distinct names the entry of a name is the one that has it. -/
theorem entry?_eq_some_iff {roster : Roster} (distinct : (roster.entries.map (·.name)).Nodup)
    (name : String) (entry : Entry) :
    roster.entry? name = some entry ↔ entry ∈ roster.entries ∧ entry.name = name := by
  refine ⟨mem_of_entry?_eq_some, ?_⟩
  rintro ⟨member, rfl⟩
  obtain ⟨other, found⟩ : ∃ other, roster.entry? entry.name = some other :=
    Option.isSome_iff_exists.mp (List.find?_isSome.mpr ⟨entry, member, by simp⟩)
  obtain ⟨otherMember, same⟩ := mem_of_entry?_eq_some found
  rw [found, List.inj_on_of_nodup_map distinct otherMember member same]

theorem mem_names_iff {roster : Roster} {name : String} :
    name ∈ roster.names ↔ ∃ entry, roster.entry? name = some entry := by
  rw [names, List.mem_mergeSort, ← Option.isSome_iff_exists, entry?, List.find?_isSome]
  simp [eq_comm]

theorem notMem_of_entry?_eq_none {roster : Roster} {name : String}
    (absent : roster.entry? name = none) {entry : Entry} (member : entry ∈ roster.entries) :
    entry.name ≠ name := by
  simpa using List.find?_eq_none.mp absent entry member

/-- The entry of a name after one was put in, whatever the name of that one is. -/
theorem entry?_setEntry (roster : Roster) (entry : Entry) (name : String) :
    Roster.entry? (roster.setEntry entry) name =
      if entry.name = name then some entry else roster.entry? name := by
  show (putEntry entry roster.entries).find? _ = if _ then _ else roster.entries.find? _
  induction roster.entries with
  | nil => by_cases own : entry.name = name <;> simp [putEntry, own]
  | cons other rest inductionHypothesis =>
    rw [putEntry]
    by_cases same : other.name = entry.name
    · rw [if_pos same, List.find?_cons, List.find?_cons, same]
      by_cases own : entry.name = name <;> simp [own]
    · rw [if_neg same, List.find?_cons, inductionHypothesis, List.find?_cons]
      by_cases own : entry.name = name
      · have different : other.name ≠ name := fun equal => same (equal.trans own.symm)
        simp [own, different]
      · rw [if_neg own, if_neg own]

/-- With distinct names, leaving entries out either leaves out the entry of a name or keeps it. -/
theorem find?_filter_entries {entries : List Entry} (distinct : (entries.map (·.name)).Nodup)
    (keep : Entry → Bool) (name : String) :
    (entries.filter keep).find? (fun entry => entry.name = name) =
      (entries.find? fun entry => entry.name = name).filter keep := by
  induction entries with
  | nil => rfl
  | cons entry rest inductionHypothesis =>
    obtain ⟨fresh, distinctRest⟩ := List.nodup_cons.mp distinct
    rw [List.find?_cons, List.filter_cons]
    by_cases own : entry.name = name
    · have absent : (rest.filter keep).find? (fun other => other.name = name) = none := by
        refine List.find?_eq_none.mpr fun other member same => fresh ?_
        have sameName : other.name = entry.name := (of_decide_eq_true same).trans own.symm
        exact List.mem_map.mpr ⟨other, List.mem_of_mem_filter member, sameName⟩
      cases kept : keep entry <;> simp [own, kept, absent, Option.filter]
    · cases kept : keep entry <;> simp [own, inductionHypothesis distinctRest]

/-! Cancelling and aborting change nothing but tasks. -/

@[simp] theorem cancelToken_entries (roster : Roster) (entry : Entry) :
    (roster.cancelToken entry).entries = roster.entries := by
  unfold cancelToken
  split <;> rfl

@[simp] theorem cancelToken_registrations (roster : Roster) (entry : Entry) :
    (roster.cancelToken entry).registrations = roster.registrations := by
  unfold cancelToken
  split <;> rfl

@[simp] theorem abortHandle_entries (roster : Roster) (entry : Entry) :
    (roster.abortHandle entry).entries = roster.entries := by
  unfold abortHandle
  split <;> rfl

@[simp] theorem abortHandle_registrations (roster : Roster) (entry : Entry) :
    (roster.abortHandle entry).registrations = roster.registrations := by
  unfold abortHandle
  split <;> rfl

/-- Two rosters that differ in nothing but that tasks were cancelled or aborted. -/
structure Marks (roster next : Roster) : Prop where
  entries : next.entries = roster.entries
  registrations : next.registrations = roster.registrations
  shutdown : next.shutdown = roster.shutdown
  tasks : ∃ change : Task → Task, next.tasks = roster.tasks.map change ∧ ∀ task,
    ∃ cancelled aborted, change task = { task with cancelled, aborted } ∧
      (task.cancelled = true → cancelled = true) ∧ (task.aborted = true → aborted = true)

theorem Marks.refl (roster : Roster) : roster.Marks roster where
  entries := rfl
  registrations := rfl
  shutdown := rfl
  tasks := ⟨id, (List.map_id _).symm, fun task => ⟨task.cancelled, task.aborted, rfl, id, id⟩⟩

theorem marks_cancelToken (roster : Roster) (entry : Entry) :
    roster.Marks (roster.cancelToken entry) := by
  unfold cancelToken
  cases entry.token with
  | none => exact .refl roster
  | some id =>
    refine ⟨rfl, rfl, rfl, _, rfl, fun task => ?_⟩
    by_cases own : task.id = id
    · exact ⟨true, task.aborted, if_pos own, fun _ => rfl, fun aborted => aborted⟩
    · exact ⟨task.cancelled, task.aborted, if_neg own, fun cancelled => cancelled,
        fun aborted => aborted⟩

theorem marks_abortHandle (roster : Roster) (entry : Entry) :
    roster.Marks (roster.abortHandle entry) := by
  unfold abortHandle
  cases entry.handle with
  | none => exact .refl roster
  | some id =>
    refine ⟨rfl, rfl, rfl, _, rfl, fun task => ?_⟩
    by_cases own : [id].contains task.id = true
    · exact ⟨task.cancelled, true, if_pos own, fun cancelled => cancelled, fun _ => rfl⟩
    · exact ⟨task.cancelled, task.aborted, if_neg own, fun cancelled => cancelled,
        fun aborted => aborted⟩

end ServerMonitor.Roster
