/-
This file states what is reported of all collectors together. The names come in
an order of their own: the known collectors first, all others by the bytes of their
names. A name has one entry, so nothing is left out and nothing comes twice, and
what is listed depends on nothing but what is reported of each collector by itself.
A collector that runs is enabled, so the two counts tell the enabled from the others.
-/

import Mathlib.Data.Finset.Card
import Mathlib.Data.List.Permutation
import ServerMonitor.Proofs.Collector.Condition
import ServerMonitor.Proofs.Collector.Tasks
import ServerMonitor.Proofs.Text.Order

namespace ServerMonitor.Roster

open Collector

/-! ### Names -/

theorem pairwise_lt_names {roster : Roster} (distinct : (roster.entries.map (·.name)).Nodup) :
    roster.names.Pairwise (· < ·) := by
  have nodup : roster.names.Nodup := (List.mergeSort_perm _ _).nodup_iff.mpr distinct
  exact ((Text.pairwise_le_mergeSort _).and nodup).imp fun before => lt_of_le_of_ne before.1 before.2

theorem mem_names_iff_status {roster : Roster} {name : String} :
    name ∈ roster.names ↔ ∃ report, roster.status name = .ok report := by
  rw [mem_names_iff, status]
  cases roster.entry? name <;> simp

/-! ### Reports -/

/-- What is listed of each name is what is reported of it. -/
theorem collectors_allStatus (roster : Roster) (now : Instant) :
    (roster.allStatus now).collectors =
      roster.listing.filterMap fun name => (roster.status name).toOption := by
  show (roster.listing.filterMap roster.entry?).map roster.statusOf = _
  rw [List.map_filterMap]
  refine congrArg (roster.listing.filterMap ·) (funext fun name => ?_)
  rw [status]
  cases roster.entry? name <;> rfl

theorem name_of_status {roster : Roster} {name : String} {report : CollectorStatus}
    (told : roster.status name = .ok report) : report.name = name := by
  rw [status] at told
  cases found : roster.entry? name with
  | none =>
    rw [found] at told
    cases told
  | some entry =>
    rw [found] at told
    cases told
    exact (mem_of_entry?_eq_some found).2

theorem status_of_mem_collectors {roster : Roster} {now : Instant} {report : CollectorStatus}
    (listed : report ∈ (roster.allStatus now).collectors) :
    roster.status report.name = .ok report := by
  rw [collectors_allStatus] at listed
  obtain ⟨name, -, told⟩ := List.mem_filterMap.mp listed
  cases status : roster.status name with
  | error refusal =>
    rw [status] at told
    cases told
  | ok found =>
    rw [status] at told
    cases told
    rw [name_of_status status, status]

theorem names_collectors (roster : Roster) (now : Instant) :
    (roster.allStatus now).collectors.map (·.name) =
      roster.listing.filter (roster.names.contains ·) := by
  rw [collectors_allStatus, List.map_filterMap, ← List.filterMap_eq_filter]
  refine congrArg (roster.listing.filterMap ·) (funext fun name => ?_)
  cases status : roster.status name with
  | error refusal =>
    have unknown : name ∉ roster.names := fun known => by
      obtain ⟨report, told⟩ := mem_names_iff_status.mp known
      cases status.symm.trans told
    simp [Except.toOption, Option.guard, unknown]
  | ok report =>
    have known : name ∈ roster.names := mem_names_iff_status.mpr ⟨report, status⟩
    simp [Except.toOption, Option.guard, known, name_of_status status]

/-- The known names come first, in their own order, then all others. -/
theorem names_collectors_eq_append (roster : Roster) (now : Instant) :
    (roster.allStatus now).collectors.map (·.name) =
      listingOrder.filter (roster.names.contains ·) ++
        roster.names.filter fun name => !listingOrder.contains name := by
  have kept : (roster.names.filter fun name => !listingOrder.contains name).filter
      (roster.names.contains ·) = roster.names.filter fun name => !listingOrder.contains name :=
    List.filter_eq_self.mpr fun name member =>
      List.contains_iff_mem.mpr (List.mem_of_mem_filter member)
  rw [names_collectors, listing, List.filter_append, kept]

theorem mem_names_collectors_iff (roster : Roster) (now : Instant) (name : String) :
    name ∈ (roster.allStatus now).collectors.map (·.name) ↔ name ∈ roster.names := by
  rw [names_collectors, listing, List.mem_filter, List.contains_iff_mem, and_iff_right_iff_imp]
  intro known
  by_cases first : name ∈ listingOrder
  · exact List.mem_append_left _ first
  · refine List.mem_append_right _ (List.mem_filter.mpr ⟨known, ?_⟩)
    rw [Bool.not_eq_true', ← Bool.not_eq_true, List.contains_iff_mem]
    exact first

theorem nodup_names_collectors {roster : Roster} (distinct : (roster.entries.map (·.name)).Nodup)
    (now : Instant) : ((roster.allStatus now).collectors.map (·.name)).Nodup := by
  have distinctOrder : listingOrder.Nodup := by decide
  rw [names_collectors_eq_append]
  refine List.nodup_append.mpr
    ⟨distinctOrder.filter _, ((pairwise_lt_names distinct).imp ne_of_lt).filter _, ?_⟩
  rintro name first _ second rfl
  obtain ⟨-, apart⟩ := List.mem_filter.mp second
  rw [List.contains_iff_mem.mpr (List.mem_of_mem_filter first)] at apart
  cases apart

/-- Rosters that report the same of each collector report the same of all. -/
theorem allStatus_eq {roster other : Roster} (distinct : (roster.entries.map (·.name)).Nodup)
    (distinctOther : (other.entries.map (·.name)).Nodup)
    (same : ∀ name, other.status name = roster.status name) (now : Instant) :
    other.allStatus now = roster.allStatus now := by
  have names : other.names = roster.names :=
    (pairwise_lt_names distinctOther).eq_of_mem_iff (pairwise_lt_names distinct) fun name => by
      rw [mem_names_iff_status, mem_names_iff_status, same]
  have collectors : (other.allStatus now).collectors = (roster.allStatus now).collectors := by
    rw [collectors_allStatus, collectors_allStatus, listing, listing, names]
    exact congrArg (List.filterMap · _) (funext fun name => congrArg Except.toOption (same name))
  change (other.listing.filterMap other.entry?).map other.statusOf =
    (roster.listing.filterMap roster.entry?).map roster.statusOf at collectors
  rw [allStatus, allStatus, collectors]

/-- The order of the entries does not matter. -/
theorem status_of_perm {roster : Roster} (distinct : (roster.entries.map (·.name)).Nodup)
    {entries : List Entry} (perm : entries.Perm roster.entries) (name : String) :
    status { roster with entries } name = roster.status name := by
  have distinctOther : (entries.map (·.name)).Nodup := (perm.map _).nodup_iff.mpr distinct
  have same : entry? { roster with entries } name = roster.entry? name := by
    refine Option.ext fun entry => ?_
    rw [entry?_eq_some_iff distinctOther, entry?_eq_some_iff distinct, perm.mem_iff]
  rw [status, status, same]
  rfl

/-! ### Counts -/

/-- A collector that runs is enabled. -/
theorem Sound.enabled_of_running {roster : Roster} {handed : List Nat}
    (sound : roster.Sound handed) {name : String} {report : CollectorStatus}
    (told : roster.status name = .ok report) (running : report.state = .running) :
    report.enabled = true := by
  rw [status] at told
  cases found : roster.entry? name with
  | none =>
    rw [found] at told
    cases told
  | some entry =>
    rw [found] at told
    cases told
    obtain ⟨task, -, owns⟩ := (sound.kept entry (mem_of_entry?_eq_some found).1).resolve_left
      fun idle => idle.state running
    exact owns.enabled

theorem Sound.countP_active {roster : Roster} {handed : List Nat} (sound : roster.Sound handed)
    (now : Instant) :
    (roster.allStatus now).collectors.countP
        (fun report => report.enabled || report.state = .running) =
      (roster.allStatus now).collectors.countP (·.enabled) := by
  refine List.countP_congr fun report listed => ?_
  rw [Bool.or_eq_true, decide_eq_true_eq]
  exact or_iff_left_of_imp (sound.enabled_of_running (status_of_mem_collectors listed))

/-! ### Runs -/

theorem mem_names_iff_condition {roster : Roster} {name : String} :
    name ∈ roster.names ↔ (roster.condition? name).isSome = true := by
  rw [mem_names_iff, condition?, Option.isSome_map, Option.isSome_iff_exists]

/-- The names are those under which collectors were registered. -/
theorem mem_names_after (requests : List Request) (name : String) :
    name ∈ (after requests).names ↔ name ∈ (requests.flatMap Request.registers).map (·.1) := by
  rw [mem_names_iff_condition]
  induction requests using List.reverseRecOn with
  | nil => simp [after, Machine.run, condition?, entry?, empty]
  | append_singleton past request inductionHypothesis =>
    rw [after_concat, (sound_after past).condition?_perform, List.flatMap_append, List.map_append,
      List.mem_append, ← inductionHypothesis, List.flatMap_singleton]
    cases request with
    | register other plan interval required =>
      by_cases own : other = name
      · simp [Request.registers, own]
      · simp [Request.registers, own, Ne.symm own]
    | _ => simp [Request.registers]

/-- All collectors are reported once each and nothing else is: the known ones that were registered
come first in their own order, all others follow in the order of their bytes. What is reported of
each is its status. The total is the number of names under which collectors were registered, and
the counts of the enabled and the disabled ones add up to it. It does not matter in which order
the collectors were registered or are kept. -/
theorem all_status_lists_each_once (requests : List Request) (now : Instant) :
    let roster := after requests
    let all := roster.allStatus now
    let registered := (requests.flatMap Request.registers).map (·.1)
    let names := all.collectors.map (·.name)
    let total := registered.toFinset.card
    let enabled := all.collectors.countP (·.enabled)
    let disabled := all.collectors.countP (!·.enabled)
    (∃ others, names = listingOrder.filter (registered.contains ·) ++ others ∧
      (∀ name, name ∈ others ↔ name ∈ registered ∧ name ∉ listingOrder) ∧
      others.Pairwise fun left right => Text.utf8Bytes left < Text.utf8Bytes right) ∧
    names.Nodup ∧ (∀ name, name ∈ names ↔ name ∈ registered) ∧
    (∀ report ∈ all.collectors, roster.status report.name = .ok report ∧
      (report.state = .running → report.enabled = true)) ∧
    all.collectors.length = total ∧ enabled + disabled = total ∧
    all.total = .ofNat total ∧ all.enabled = .ofNat enabled ∧ all.disabled = .ofNat disabled ∧
    (∀ others, (∀ name, (after others).status name = roster.status name) →
      (after others).allStatus now = all) ∧
    ∀ entries : List Entry, entries.Perm roster.entries →
      allStatus { roster with entries } now = all := by
  intro roster all registered names total enabled disabled
  have sound := sound_after requests
  have distinct : (roster.entries.map (·.name)).Nodup := sound.distinctNames
  have known (name : String) : name ∈ roster.names ↔ name ∈ registered :=
    mem_names_after requests name
  have sorted := (pairwise_lt_names distinct).filter fun name => !listingOrder.contains name
  have mem_listed (name : String) : name ∈ names ↔ name ∈ registered :=
    (roster.mem_names_collectors_iff now name).trans (known name)
  have length : all.collectors.length = total := by
    rw [← List.length_map (·.name),
      ← List.toFinset_card_of_nodup (nodup_names_collectors distinct now),
      List.toFinset.ext_iff.mpr mem_listed]
  have sum : enabled + disabled = total := by
    rw [← length, List.length_eq_countP_add_countP (·.enabled)]
    simp [enabled, disabled]
  refine ⟨⟨roster.names.filter fun name => !listingOrder.contains name, ?_, fun name => ?_,
      sorted.imp (Text.utf8Bytes_lt_iff _ _).mpr⟩, nodup_names_collectors distinct now, mem_listed,
    fun report listed => ?_, length, sum, congrArg UInt64.ofNat length,
    congrArg UInt64.ofNat (sound.countP_active now), ?_, fun others same => ?_,
    fun entries perm => ?_⟩
  · refine (roster.names_collectors_eq_append now).trans (congrArg (· ++ _) ?_)
    refine List.filter_congr fun name _ => ?_
    rw [Bool.eq_iff_iff, List.contains_iff_mem, List.contains_iff_mem, known]
  · rw [List.mem_filter, known, Bool.not_eq_true', ← Bool.not_eq_true, List.contains_iff_mem]
  · have told := status_of_mem_collectors listed
    exact ⟨told, sound.enabled_of_running told⟩
  · show UInt64.ofNat (all.collectors.length - all.collectors.countP _) = _
    rw [sound.countP_active now, length, ← sum, Nat.add_sub_cancel_left]
  · exact allStatus_eq distinct (sound_after others).distinctNames same now
  · exact allStatus_eq distinct ((perm.map _).nodup_iff.mpr distinct)
      (status_of_perm distinct perm) now

/-- Two collectors are listed alike in whatever order they were registered. -/
theorem listed_alike_in_either_order :
    let own : Request := .register "own" (Plan.ofList []) 7 false
    let known : Request := .register "gpu" (Plan.ofList []) 0 false
    (∀ name, (after [known, own]).status name = (after [own, known]).status name) ∧
    ((after [own, known]).allStatus .epoch).collectors.map (·.name) = ["gpu", "own"] ∧
    (after [known, own]).allStatus .epoch = (after [own, known]).allStatus .epoch := by
  intro own known
  have same (name : String) :
      (after [known, own]).status name = (after [own, known]).status name := by
    by_cases first : "own" = name
    · subst first
      rfl
    · by_cases second : "gpu" = name
      · subst second
        rfl
      · simp [after, Machine.run, own, known, perform, register, empty, entry?, setEntry, putEntry,
          status, first, second]
  obtain ⟨-, -, -, -, -, -, -, -, -, alike, -⟩ := all_status_lists_each_once [own, known] .epoch
  exact ⟨same, by cbv, alike [known, own] same⟩

end ServerMonitor.Roster
