/-
This file follows payloads through a list of bindings into the cache. The bindings
are filled into a table in the order of the list, so the last of a kind counts; it
is what a payload of its kind runs, once, and nothing else is run. With the
bindings of the cache a payload replaces the entry of its own kind and touches
nothing else. So after a run each entry holds the last payload of its kind, and
payloads of different kinds may come in any order.
-/

import Mathlib.Logic.Function.Basic
import ServerMonitor.Proofs.Cache.Entries
import ServerMonitor.Proofs.Machine

namespace ServerMonitor

/-! ### The last of a kind -/

/-- The last payload of a kind in a list. -/
def Kind.last? (kind : Kind) (payloads : List Payload) : Option Payload :=
  (payloads.filter fun payload => payload.kind = kind).getLast?

theorem Kind.last?_append (kind : Kind) (first second : List Payload) :
    kind.last? (first ++ second) = (kind.last? second).or (kind.last? first) := by
  rw [last?, List.filter_append, List.getLast?_append]
  rfl

theorem Kind.last?_singleton (kind : Kind) (payload : Payload) :
    kind.last? [payload] = if payload.kind = kind then some payload else none := by
  rw [last?, List.filter_cons, List.filter_nil]
  by_cases same : payload.kind = kind
  · rw [if_pos same, decide_eq_true same]
    rfl
  · rw [if_neg same, decide_eq_false same]
    rfl

theorem Kind.isSome_last?_iff {kind : Kind} {payloads : List Payload} :
    (kind.last? payloads).isSome ↔ ∃ payload ∈ payloads, payload.kind = kind := by
  rw [Option.isSome_iff_ne_none, last?, ne_eq, List.getLast?_eq_none_iff, List.filter_eq_nil_iff]
  push Not
  simp only [decide_eq_true_eq]

/-- Payloads of different kinds may change places. -/
theorem Kind.last?_swap (kind : Kind) {first second : Payload}
    (different : first.kind ≠ second.kind) (past future : List Payload) :
    kind.last? (past ++ first :: second :: future) =
      kind.last? (past ++ second :: first :: future) := by
  have swapped : (kind.last? [second]).or (kind.last? [first]) =
      (kind.last? [first]).or (kind.last? [second]) := by
    rw [last?_singleton, last?_singleton]
    by_cases isFirst : first.kind = kind
    · rw [if_neg fun isSecond => different (isFirst.trans isSecond.symm), Option.none_or,
        Option.or_none]
    · rw [if_neg isFirst, Option.none_or, Option.or_none]
  have ofPair (one other : Payload) :
      kind.last? (past ++ one :: other :: future) = (kind.last? future).or
        (((kind.last? [other]).or (kind.last? [one])).or (kind.last? past)) := by
    show kind.last? (past ++ ([one] ++ ([other] ++ future))) = _
    simp only [last?_append, Option.or_assoc]
  rw [ofPair, ofPair, swapped]

namespace Dispatch

variable {dispatch : Dispatch}

/-- The bindings by their kinds, entered one after the other. -/
def table (dispatch : Dispatch) : Kind → Option Binding :=
  dispatch.bindings.foldl
    (fun table binding => Function.update table binding.kind (some binding)) fun _ => none

/-- Of several bindings of a kind the table holds the last. -/
theorem binding?_eq_table (dispatch : Dispatch) : dispatch.binding? = dispatch.table := by
  obtain ⟨bindings⟩ := dispatch
  funext kind
  unfold binding? table
  -- From the end of the list, where the binding stands that was entered last.
  induction bindings using List.reverseRecOn with
  | nil => rfl
  | append_singleton earlier binding inductionHypothesis =>
    rw [List.foldl_append, List.foldl_cons, List.foldl_nil, Function.update_apply,
      ← inductionHypothesis]
    show (earlier ++ [binding]).reverse.find? _ = _
    rw [List.reverse_concat, List.find?_cons]
    by_cases same : binding.kind = kind
    · rw [decide_eq_true same, if_pos same.symm]
    · rw [decide_eq_false same, if_neg (Ne.symm same)]

theorem binding?_eq_some {earlier later : List Binding} {binding : Binding}
    (split : dispatch.bindings = earlier ++ binding :: later)
    (last : ∀ other ∈ later, other.kind ≠ binding.kind) :
    dispatch.binding? binding.kind = some binding := by
  rw [binding?, List.find?_eq_some_iff_append]
  refine ⟨decide_eq_true rfl, later.reverse, earlier.reverse, ?_, fun other member => ?_⟩
  · rw [split, List.reverse_append, List.reverse_cons, List.append_assoc]
    rfl
  · rw [decide_eq_false (last other (List.mem_reverse.mp member))]
    rfl

theorem binding?_eq_none_iff {kind : Kind} :
    dispatch.binding? kind = none ↔ ∀ binding ∈ dispatch.bindings, binding.kind ≠ kind := by
  simp only [binding?, List.find?_eq_none, List.mem_reverse, decide_eq_true_eq, ne_eq]

/-! ### Runs -/

/-- A payload is applied to the cache; the answer is whether there is a binding for it. -/
def perform (dispatch : Dispatch) : Machine Cache Payload Bool :=
  fun cache payload => dispatch.apply payload cache

/-- What a payload runs: the binding that counts for its kind. -/
def call? (dispatch : Dispatch) (payload : Payload) : Option (Binding × Payload) :=
  (dispatch.binding? payload.kind).map (·, payload)

theorem apply_eq_call (dispatch : Dispatch) (payload : Payload) (cache : Cache) :
    dispatch.apply payload cache =
      ((dispatch.call? payload).elim cache fun call => call.1.update call.2 cache,
        dispatch.handles payload.kind) := by
  rw [apply, call?, handles]
  cases dispatch.binding? payload.kind <;> rfl

/-- A run does what its payloads run, one after the other, and nothing else. -/
theorem run_eq_calls (dispatch : Dispatch) (cache : Cache) (payloads : List Payload) :
    dispatch.perform.run cache payloads =
      (payloads.filterMap dispatch.call?).foldl (fun cache call => call.1.update call.2 cache)
        cache := by
  induction payloads generalizing cache with
  | nil => rfl
  | cons payload rest inductionHypothesis =>
    refine (inductionHypothesis (dispatch.apply payload cache).1).trans ?_
    rw [apply_eq_call, List.filterMap_cons]
    cases dispatch.call? payload <;> rfl

theorem handles_iff {kind : Kind} :
    dispatch.handles kind = true ↔ ∃ binding ∈ dispatch.bindings, binding.kind = kind := by
  rw [handles, Option.isSome_iff_ne_none, ne_eq, binding?_eq_none_iff]
  push Not
  rfl

end Dispatch

/-! ### What a cache holds -/

namespace Cache

/-- The cache without what came from the bus. -/
def bare (cache : Cache) : Cache := { cache with snapshots := [] }

/-- These caches hold the same, in whatever order they came to hold it. -/
structure Alike (cache other : Cache) : Prop where
  payload? : ∀ kind, cache.payload? kind = other.payload? kind
  bare : cache.bare = other.bare

/-- Caches that hold the same tell the same. -/
theorem Alike.told {cache other : Cache} (alike : cache.Alike other) :
    cache.populated = other.populated ∧ ∀ kind, cache.entryText kind = other.entryText kind := by
  unfold populated entryText latest find?
  simp only [alike.payload?, true_and, implies_true]

/-- The kinds among these, in their order, under the names of their entries. -/
theorem populated_eq (cache : Cache) :
    cache.populated =
      (Kind.cached.filter fun kind => (cache.payload? kind).isSome).filterMap Kind.entry? := by
  rw [populated, Kind.cached, List.filter_filter, List.filterMap_filter]
  congr 1
  funext kind
  cases (cache.payload? kind).isSome <;> cases kind.entry? <;> rfl

end Cache

/-! ### The bindings of the cache -/

namespace Dispatch

/-- A payload becomes the entry of its kind and leaves the others as they are. -/
theorem payload?_apply_standard (payload : Payload) (cache : Cache) (kind : Kind) :
    (standard.apply payload cache).1.payload? kind =
      if payload.kind = kind ∧ kind ∈ Kind.cached then some payload else cache.payload? kind := by
  rw [apply_standard]
  by_cases state : payload.kind = .collectorState
  · rw [if_pos state, if_neg]
    exact fun ⟨same, fed⟩ => Kind.mem_cached_iff.mp fed (same.symm.trans state)
  · rw [if_neg state, cache.payload?_store]
    by_cases same : payload.kind = kind
    · rw [if_pos same, if_pos ⟨same, Kind.mem_cached_iff.mpr (same ▸ state)⟩]
    · rw [if_neg same, if_neg fun both => same both.1]

theorem bare_apply_standard (payload : Payload) (cache : Cache) :
    (standard.apply payload cache).1.bare = cache.bare := by
  rw [apply_standard]
  split <;> rfl

theorem payload?_run_standard (cache : Cache) (payloads : List Payload) (kind : Kind) :
    (standard.perform.run cache payloads).payload? kind =
      if kind ∈ Kind.cached then (kind.last? payloads).or (cache.payload? kind)
      else cache.payload? kind := by
  induction payloads using List.reverseRecOn with
  | nil => exact (ite_self _).symm
  | append_singleton past payload inductionHypothesis =>
    rw [Machine.run_concat, perform, payload?_apply_standard, inductionHypothesis,
      Kind.last?_append, Kind.last?_singleton]
    by_cases same : payload.kind = kind
    · rw [if_pos same, Option.some_or, Option.some_or]
      by_cases fed : kind ∈ Kind.cached
      · rw [if_pos ⟨same, fed⟩, if_pos fed]
      · rw [if_neg fun both => fed both.2, if_neg fed, if_neg fed]
    · rw [if_neg fun both => same both.1, if_neg same, Option.none_or]

theorem bare_run_standard (cache : Cache) (payloads : List Payload) :
    (standard.perform.run cache payloads).bare = cache.bare :=
  Machine.run_invariant _ (fun reached => reached.bare = cache.bare)
    (fun reached payload same => (bare_apply_standard payload reached).trans same) rfl payloads

/-- Runs with the same last payloads leave the same in the cache. -/
theorem alike_of_last?_eq (cache : Cache) {payloads others : List Payload}
    (same : ∀ kind ∈ Kind.cached, kind.last? payloads = kind.last? others) :
    (standard.perform.run cache payloads).Alike (standard.perform.run cache others) := by
  refine ⟨fun kind => ?_, (bare_run_standard cache payloads).trans
    (bare_run_standard cache others).symm⟩
  rw [payload?_run_standard, payload?_run_standard]
  by_cases fed : kind ∈ Kind.cached
  · rw [if_pos fed, if_pos fed, same kind fed]
  · rw [if_neg fed, if_neg fed]

/-- The entries that a run has filled are those of the kinds that came, and those filled before. -/
theorem populated_run_standard (cache : Cache) (payloads : List Payload) :
    (standard.perform.run cache payloads).populated =
      (Kind.cached.filter fun kind =>
        (∃ payload ∈ payloads, payload.kind = kind) ∨ (cache.payload? kind).isSome).filterMap
          Kind.entry? := by
  rw [Cache.populated_eq]
  refine congrArg (List.filterMap Kind.entry?) (List.filter_congr fun kind fed => ?_)
  rw [payload?_run_standard, if_pos fed, Bool.eq_iff_iff, Option.isSome_or, Bool.or_eq_true,
    Kind.isSome_last?_iff, decide_eq_true_eq]

/-- Of the bindings of a kind the last counts. A payload of that kind runs it, once, and nothing
else; a payload without a binding leaves the cache as it is. The topics are those of all bindings,
in their order. With the bindings of the cache the last payload of each kind counts: it becomes the
entry of its kind, other entries and what does not come from the bus stay, so payloads of different
kinds may change places. The filled entries are those of the kinds that came, in their fixed order,
besides those filled before. -/
theorem last_of_each_kind_counts (bindings : List Binding) (cache : Cache)
    (payloads : List Payload) :
    let dispatch : Dispatch := ⟨bindings⟩
    let now := dispatch.perform.run cache payloads
    let filled := standard.perform.run cache payloads
    dispatch.topics = bindings.map (·.topic) ∧
    dispatch.binding? = dispatch.table ∧
    now = (payloads.filterMap dispatch.call?).foldl (fun cache call => call.1.update call.2 cache)
      cache ∧
    (∀ payload,
      ((dispatch.apply payload now).2 = true ↔ ∃ binding ∈ bindings, binding.kind = payload.kind) ∧
      (∀ earlier binding later, bindings = earlier ++ binding :: later →
        binding.kind = payload.kind → (∀ other ∈ later, other.kind ≠ payload.kind) →
        dispatch.call? payload = some (binding, payload) ∧
          (dispatch.apply payload now).1 = binding.update payload now) ∧
      ((∀ binding ∈ bindings, binding.kind ≠ payload.kind) →
        dispatch.call? payload = none ∧ (dispatch.apply payload now).1 = now)) ∧
    (∀ payload,
      (∀ kind, (standard.apply payload filled).1.payload? kind =
        if payload.kind = kind ∧ kind ∈ Kind.cached then some payload else filled.payload? kind) ∧
      (standard.apply payload filled).1.bare = filled.bare) ∧
    (∀ others, (∀ kind ∈ Kind.cached, kind.last? payloads = kind.last? others) →
      filled.Alike (standard.perform.run cache others)) ∧
    (∀ past first second future, payloads = past ++ first :: second :: future →
      first.kind ≠ second.kind →
      filled.Alike (standard.perform.run cache (past ++ second :: first :: future))) ∧
    filled.populated = (Kind.cached.filter fun kind =>
      (∃ payload ∈ payloads, payload.kind = kind) ∨ (cache.payload? kind).isSome).filterMap
        Kind.entry? := by
  intro dispatch now filled
  refine ⟨rfl, dispatch.binding?_eq_table, dispatch.run_eq_calls cache payloads,
    fun payload => ⟨?_, fun earlier binding later split same last => ?_, fun unbound => ?_⟩,
    fun payload => ⟨payload?_apply_standard payload filled, bare_apply_standard payload filled⟩,
    fun others same => alike_of_last?_eq cache same, ?_, populated_run_standard cache payloads⟩
  · rw [apply_eq_call]
    exact handles_iff
  · have called : dispatch.call? payload = some (binding, payload) := by
      rw [call?, ← same, binding?_eq_some split fun other member => same ▸ last other member]
      rfl
    rw [apply_eq_call, called]
    exact ⟨rfl, rfl⟩
  · have silent : dispatch.call? payload = none := by
      rw [call?, binding?_eq_none_iff.mpr unbound]
      rfl
    rw [apply_eq_call, silent]
    exact ⟨rfl, rfl⟩
  · rintro past first second future rfl different
    exact alike_of_last?_eq cache fun kind _ => kind.last?_swap different past future

/-- Of two bindings of the disks the second counts; it does not matter whether the shares come
before the disks. -/
theorem last_of_disks_counts :
    let dispatch : Dispatch :=
      ⟨[.ofUpdate "disk_list_update" .disks fun _ cache => cache, .ofKind .shares, .ofKind .disks]⟩
    let disks : Payload := ⟨.disks, []⟩
    let shares : Payload := ⟨.shares, []⟩
    (dispatch.apply disks .empty).1 = Cache.empty.store disks ∧
      (standard.perform.run .empty [shares, disks]).Alike
        (standard.perform.run .empty [disks, shares]) ∧
      (standard.perform.run .empty [shares, disks]).populated = ["disks", "shares"] := by
  intro dispatch disks shares
  obtain ⟨-, -, -, applied, -⟩ := last_of_each_kind_counts dispatch.bindings .empty []
  obtain ⟨-, -, -, -, -, -, swapped, populated⟩ :=
    last_of_each_kind_counts [] .empty [shares, disks]
  obtain ⟨-, updated⟩ := (applied disks).2.1 [_, _] (.ofKind .disks) [] rfl rfl nofun
  exact ⟨updated.trans (Binding.ofKind_update disks .empty), swapped [] shares disks [] rfl nofun,
    populated.trans (by decide)⟩

end Dispatch

end ServerMonitor
