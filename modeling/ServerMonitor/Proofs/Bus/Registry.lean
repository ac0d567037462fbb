/-
This file describes the list in which the bus keeps its registrations by the
mailboxes that are found under a topic: what enrolling a mailbox and keeping
some of the registrations do to them. As long as no topic is listed twice, what
is found under a topic is all there is, and a topic that loses its last mailbox
can be struck off without another entry showing through.
-/

import Mathlib.Data.List.Nodup
import ServerMonitor.Bus.Basic

namespace ServerMonitor.Bus

variable {Message : Type}

/-! ### Registrations in a list of topics -/

/-- The mailboxes registered under a topic in a list of registrations. -/
def registeredIn (registry : List (String × List Nat)) (topic : String) : List Nat :=
  (registry.lookup topic).getD []

theorem registered_eq (bus : Bus Message) (topic : String) :
    bus.registered topic = registeredIn bus.registry topic := rfl

theorem registeredIn_cons (registration : String × List Nat)
    (rest : List (String × List Nat)) (topic : String) :
    registeredIn (registration :: rest) topic =
      if registration.1 = topic then registration.2 else registeredIn rest topic := by
  unfold registeredIn
  rw [List.lookup_cons]
  by_cases same : registration.1 = topic
  · rw [if_pos same, same, beq_self_eq_true]
    rfl
  · rw [if_neg same, beq_false_of_ne (Ne.symm same)]

theorem registeredIn_of_notMem (registry : List (String × List Nat)) (topic : String)
    (absent : topic ∉ registry.map Prod.fst) : registeredIn registry topic = [] := by
  induction registry with
  | nil => rfl
  | cons registration rest inductionHypothesis =>
    rw [List.map_cons, List.mem_cons, not_or] at absent
    rw [registeredIn_cons, if_neg (Ne.symm absent.1), inductionHypothesis absent.2]

/-- With distinct topics, the registrations in the list are those that can be looked up. -/
theorem registeredIn_of_mem (registry : List (String × List Nat))
    (distinct : (registry.map Prod.fst).Nodup) (registration : String × List Nat)
    (member : registration ∈ registry) :
    registeredIn registry registration.1 = registration.2 := by
  induction registry with
  | nil => cases member
  | cons head rest inductionHypothesis =>
    rw [List.map_cons, List.nodup_cons] at distinct
    rw [registeredIn_cons]
    rcases List.mem_cons.mp member with rfl | later
    · rw [if_pos rfl]
    · have different : head.1 ≠ registration.1 := fun same =>
        distinct.1 (same ▸ List.mem_map_of_mem later)
      rw [if_neg different, inductionHypothesis distinct.2 later]

/-! ### Registering one mailbox -/

theorem mem_topics_enroll (id : Nat) (topic other : String)
    (registry : List (String × List Nat)) :
    other ∈ (enroll id topic registry).map Prod.fst ↔
      other = topic ∨ other ∈ registry.map Prod.fst := by
  induction registry with
  | nil => simp [enroll]
  | cons registration rest inductionHypothesis =>
    rw [enroll]
    split
    · rename_i same
      simp [same]
    · rw [List.map_cons, List.mem_cons, inductionHypothesis, List.map_cons, List.mem_cons]
      exact or_left_comm

theorem nodup_topics_enroll (id : Nat) (topic : String) (registry : List (String × List Nat))
    (distinct : (registry.map Prod.fst).Nodup) :
    ((enroll id topic registry).map Prod.fst).Nodup := by
  induction registry with
  | nil => exact List.nodup_singleton topic
  | cons registration rest inductionHypothesis =>
    rw [List.map_cons, List.nodup_cons] at distinct
    rw [enroll]
    split
    · rename_i same
      rw [List.map_cons, List.nodup_cons, ← same]
      exact distinct
    · rename_i different
      rw [List.map_cons, List.nodup_cons, mem_topics_enroll, not_or]
      exact ⟨⟨different, distinct.1⟩, inductionHypothesis distinct.2⟩

theorem registeredIn_enroll (id : Nat) (topic other : String)
    (registry : List (String × List Nat)) :
    registeredIn (enroll id topic registry) other =
      if other = topic ∧ id ∉ registeredIn registry other then registeredIn registry other ++ [id]
      else registeredIn registry other := by
  induction registry with
  | nil =>
    rw [enroll, registeredIn_cons]
    by_cases same : topic = other
    · simp [same, registeredIn]
    · simp [same, Ne.symm same, registeredIn]
  | cons registration rest inductionHypothesis =>
    rw [enroll, registeredIn_cons]
    by_cases here : registration.1 = topic
    · rw [if_pos here, registeredIn_cons]
      by_cases same : other = topic
      · subst same
        by_cases enrolled : id ∈ registration.2 <;> simp [here, enrolled]
      · simp [same, here, Ne.symm same]
    · rw [if_neg here, registeredIn_cons, inductionHypothesis]
      by_cases found : registration.1 = other
      · have different : other ≠ topic := fun same => here (found.trans same)
        simp [found, different]
      · simp [found]

/-- A mailbox that is new to a registry comes last under each of its topics, once. -/
theorem registeredIn_foldl_enroll (id : Nat) (topics : List String) (other : String)
    (registry : List (String × List Nat)) :
    registeredIn (topics.foldl (fun registry topic => enroll id topic registry) registry) other =
      if other ∈ topics ∧ id ∉ registeredIn registry other then registeredIn registry other ++ [id]
      else registeredIn registry other := by
  induction topics generalizing registry with
  | nil => simp
  | cons topic rest inductionHypothesis =>
    rw [List.foldl_cons, inductionHypothesis, registeredIn_enroll]
    by_cases same : other = topic
    · subst same
      by_cases enrolled : id ∈ registeredIn registry other <;> simp [enrolled]
    · simp [same]

/-! ### Keeping some registrations -/

theorem topics_retain_sublist (keep : String → Nat → Bool) (registry : List (String × List Nat)) :
    ((retain keep registry).map Prod.fst).Sublist (registry.map Prod.fst) := by
  have kept := List.Sublist.map Prod.fst (List.filter_sublist
    (l := registry.map fun registration =>
      (registration.1, registration.2.filter (keep registration.1)))
    (p := fun registration => !registration.2.isEmpty))
  rw [List.map_map] at kept
  exact kept

theorem retain_cons (keep : String → Nat → Bool) (registration : String × List Nat)
    (rest : List (String × List Nat)) :
    retain keep (registration :: rest) =
      if (registration.2.filter (keep registration.1)).isEmpty then retain keep rest
      else (registration.1, registration.2.filter (keep registration.1)) :: retain keep rest := by
  unfold retain
  rw [List.map_cons, List.filter_cons]
  by_cases empty : (registration.2.filter (keep registration.1)).isEmpty <;> simp [empty]

theorem registeredIn_retain (keep : String → Nat → Bool) (registry : List (String × List Nat))
    (distinct : (registry.map Prod.fst).Nodup) (topic : String) :
    registeredIn (retain keep registry) topic =
      (registeredIn registry topic).filter (keep topic) := by
  induction registry with
  | nil => rfl
  | cons registration rest inductionHypothesis =>
    rw [List.map_cons, List.nodup_cons] at distinct
    have tail := inductionHypothesis distinct.2
    rw [retain_cons, registeredIn_cons]
    by_cases same : registration.1 = topic
    · rw [if_pos same, ← same]
      split
      · rename_i empty
        rw [List.isEmpty_iff.mp empty]
        exact registeredIn_of_notMem _ _ fun member =>
          distinct.1 ((topics_retain_sublist keep rest).subset member)
      · rw [registeredIn_cons, if_pos rfl]
    · rw [if_neg same, ← tail]
      split
      · rfl
      · rw [registeredIn_cons, if_neg same]

/-- Keeping some registrations and then some of these is keeping those that are kept twice. -/
theorem retain_retain (keep other : String → Nat → Bool) (registry : List (String × List Nat)) :
    retain other (retain keep registry) =
      retain (fun topic id => other topic id && keep topic id) registry := by
  induction registry with
  | nil => rfl
  | cons registration rest inductionHypothesis =>
    have twice : (registration.2.filter (keep registration.1)).filter (other registration.1) =
        registration.2.filter fun id => other registration.1 id && keep registration.1 id :=
      List.filter_filter
    rw [retain_cons keep, retain_cons, ← twice]
    split
    · rename_i empty
      rw [List.isEmpty_iff.mp empty, List.filter_nil, inductionHypothesis]
      rfl
    · rw [retain_cons, inductionHypothesis]

end ServerMonitor.Bus
