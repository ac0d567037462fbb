/-
This file says what a payload does to the cache. It replaces the entry of its own
kind and no other, whatever topic it came on; a payload whose kind has no entry
changes nothing. So after a list of payloads an entry holds the last one of its
kind, or what it held before.
-/

import ServerMonitor.Cache.Binding

namespace ServerMonitor

/-- All kinds have an entry but the one that tells the states of collectors. -/
theorem Kind.mem_cached_iff {kind : Kind} : kind ∈ cached ↔ kind ≠ .collectorState := by
  cases kind <;> decide

namespace Payload

theorem valueOf?_kind (payload : Payload) : payload.valueOf? payload.kind = some payload.value := by
  rw [valueOf?, dif_pos rfl]

theorem valueOf?_eq_none {payload : Payload} {kind : Kind} (different : payload.kind ≠ kind) :
    payload.valueOf? kind = none := by
  rw [valueOf?, dif_neg different]

theorem valueOf?_eq_none_iff {payload : Payload} {kind : Kind} :
    payload.valueOf? kind = none ↔ payload.kind ≠ kind := by
  refine ⟨fun nothing same => ?_, valueOf?_eq_none⟩
  subst same
  cases nothing.symm.trans payload.valueOf?_kind

end Payload

namespace Cache

theorem payload?_store (cache : Cache) (payload : Payload) (kind : Kind) :
    (cache.store payload).payload? kind =
      if payload.kind = kind then some payload else cache.payload? kind := by
  show (payload :: cache.snapshots.filter _).find? _ = _
  rw [List.find?_cons, List.find?_filter]
  by_cases same : payload.kind = kind
  · rw [if_pos same, decide_eq_true same]
  · rw [if_neg same, decide_eq_false same]
    show cache.snapshots.find? _ = cache.snapshots.find? _
    congr 1
    funext other
    by_cases here : other.kind = kind
    · simp [here, Ne.symm same]
    · simp [here]

/-- A stored payload is the entry of its kind; other entries stay. -/
theorem find?_store (cache : Cache) (payload : Payload) (kind : Kind) :
    (cache.store payload).find? kind = (payload.valueOf? kind).or (cache.find? kind) := by
  rw [find?, find?, payload?_store]
  by_cases same : payload.kind = kind
  · subst same
    rw [if_pos rfl, Option.bind_some, payload.valueOf?_kind, Option.some_or]
  · rw [if_neg same, Payload.valueOf?_eq_none same, Option.none_or]

end Cache

theorem Binding.ofKind_update (payload : Payload) (cache : Cache) :
    (Binding.ofKind payload.kind).update payload cache = cache.store payload := by
  unfold Binding.ofKind Binding.ofUpdate
  dsimp only
  rw [payload.valueOf?_kind]

namespace Dispatch

theorem binding?_standard (kind : Kind) :
    standard.binding? kind = if kind = .collectorState then none else some (.ofKind kind) := by
  cases kind <;> rfl

/-- A payload is stored under its kind, unless it tells the state of a collector. -/
theorem apply_standard (payload : Payload) (cache : Cache) :
    (standard.apply payload cache).1 =
      if payload.kind = .collectorState then cache else cache.store payload := by
  rw [apply, binding?_standard]
  by_cases state : payload.kind = .collectorState
  · rw [if_pos state, if_pos state]
  · rw [if_neg state, if_neg state]
    exact Binding.ofKind_update payload cache

theorem find?_apply_standard (payload : Payload) (cache : Cache) {kind : Kind}
    (cached : kind ≠ .collectorState) :
    (standard.apply payload cache).1.find? kind =
      (payload.valueOf? kind).or (cache.find? kind) := by
  rw [apply_standard]
  by_cases state : payload.kind = .collectorState
  · rw [if_pos state, Payload.valueOf?_eq_none fun same => cached (same.symm.trans state),
      Option.none_or]
  · rw [if_neg state, cache.find?_store]

end Dispatch

end ServerMonitor
