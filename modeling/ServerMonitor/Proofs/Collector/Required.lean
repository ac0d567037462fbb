/-
This file follows one collector from its latest registration on. The plan that its
name stands for, and whether it is required, are those of that registration; its
condition is what the requests since have made of a fresh one. A required
collector is either running or still as it was registered, with the interval zero:
only to enable it tells the two apart, and nothing but to stop all collectors leads
back.
-/

import ServerMonitor.Proofs.Collector.Polling

namespace ServerMonitor

/-- Whether a request registers a collector under this name. -/
def Roster.Request.replaces (name : String) : Roster.Request → Bool
  | .register other _ _ _ => other = name
  | _ => false

/-- Whether a request asks to enable the collector of this name. -/
def Roster.Request.enables (name : String) : Roster.Request → Bool
  | .enable other _ _ => other = name
  | _ => false

namespace Collector.Condition

/-- To be required comes with the registration. -/
theorem required_after (name : String) (condition : Condition) (request : Roster.Request) :
    (condition.after name request).required = condition.required := by
  cases request with
  | enable other time now =>
    rw [after]
    split
    · unfold enable
      split <;> rfl
    · rfl
  | disable other now =>
    rw [after]
    split
    · unfold disable
      split <;> rfl
    · rfl
  | startAll time | stopAll | changeInterval other seconds time =>
    rw [after]
    split <;> rfl
  | register | step | stepHeedless | shutdown => rfl

/-- A required collector that runs, or that nobody has enabled since it was registered disabled. -/
structure Mandatory (on : Bool) (condition : Condition) : Prop where
  required : condition.required = true
  enabled : condition.enabled = on
  state : condition.state = if on then .running else .disabled

/-- Unless all collectors are stopped, a required collector goes on running, and is set running by
nothing but a request to enable it. -/
theorem Mandatory.after {on : Bool} {condition : Condition} (mandatory : condition.Mandatory on)
    (name : String) {request : Roster.Request} (goes : request ≠ .stopAll) :
    (condition.after name request).Mandatory (on || request.enables name) := by
  have unchanged : condition.Mandatory (on || false) := (Bool.or_false on).symm ▸ mandatory
  cases request with
  | enable other time now =>
    by_cases own : other = name
    · have asked : (Roster.Request.enable other time now).enables name = true := decide_eq_true own
      rw [Condition.after, if_pos own, asked, Bool.or_true, enable]
      cases on with
      | true =>
        rw [if_pos (show condition.state = .running from mandatory.state)]
        exact mandatory
      | false =>
        rw [if_neg (mandatory.state ▸ by decide)]
        exact ⟨mandatory.required, rfl, rfl⟩
    · have spared : (Roster.Request.enable other time now).enables name = false :=
        decide_eq_false own
      rw [Condition.after, if_neg own, spared]
      exact unchanged
  | disable other now =>
    have refused : condition.disable = condition := if_pos (.inl mandatory.required)
    rw [Condition.after, refused, ite_self]
    exact unchanged
  | startAll time =>
    have unstartable : condition.isStartable = false := by
      cases on <;> simp [isStartable, mandatory.enabled, mandatory.state]
    rw [Condition.after, unstartable]
    exact unchanged
  | stopAll => exact absurd rfl goes
  | changeInterval other seconds time =>
    rw [Condition.after]
    split
    · exact ⟨unchanged.required, unchanged.enabled, unchanged.state⟩
    · exact unchanged
  | register | step | stepHeedless | shutdown => exact unchanged

theorem required_foldl (name : String) (condition : Condition) (requests : List Roster.Request) :
    (requests.foldl (Condition.after name) condition).required = condition.required := by
  induction requests generalizing condition with
  | nil => rfl
  | cons request rest inductionHypothesis =>
    exact (inductionHypothesis _).trans (required_after name condition request)

theorem Mandatory.foldl {on : Bool} {condition : Condition} (mandatory : condition.Mandatory on)
    (name : String) {requests : List Roster.Request} (go : .stopAll ∉ requests) :
    (requests.foldl (Condition.after name) condition).Mandatory
      (on || requests.any (Roster.Request.enables name)) := by
  induction requests generalizing on condition with
  | nil => exact (Bool.or_false on).symm ▸ mandatory
  | cons request rest inductionHypothesis =>
    rw [List.mem_cons, not_or] at go
    rw [List.any_cons, ← Bool.or_assoc]
    exact inductionHypothesis (mandatory.after name (Ne.symm go.1)) go.2

/-- When all collectors are started, a required one runs unless its interval is zero. -/
theorem mandatory_startAll (name : String) (interval : UInt64) (time : Nat) :
    ((fresh interval true).after name (.startAll time)).Mandatory (interval ≠ 0) := by
  by_cases zero : interval = 0
  · subst zero
    exact ⟨rfl, rfl, rfl⟩
  · have startable : (fresh interval true).isStartable = true := by
      simp [isStartable, fresh, zero, UInt64.pos_iff_ne_zero]
    rw [after, startable, decide_eq_true zero]
    exact ⟨rfl, rfl, rfl⟩

end Collector.Condition

namespace Roster

open Collector

/-! ### The latest registration -/

theorem IsLatest.unique {registered : List (String × Plan)} {name : String} {first second : Nat}
    (latest : IsLatest registered name first) (other : IsLatest registered name second) :
    first = second := by
  rcases Nat.lt_trichotomy first second with before | same | behind
  · exact absurd other.named (latest.latest second before)
  · exact same
  · exact absurd latest.named (other.latest first behind)

theorem IsLatest.append_of_forall {registered later : List (String × Plan)} {name : String}
    {index : Nat} (latest : IsLatest registered name index)
    (others : ∀ registration ∈ later, name ≠ registration.1) :
    IsLatest (registered ++ later) name index := by
  induction later generalizing registered with
  | nil => exact (List.append_nil registered).symm ▸ latest
  | cons registration rest inductionHypothesis =>
    rw [List.append_cons]
    refine inductionHypothesis (latest.append registration.2 (others _ List.mem_cons_self)) ?_
    exact fun other member => others other (List.mem_cons_of_mem _ member)

/-- A request that does not replace a collector makes of it what it makes of its condition. -/
theorem Sound.condition?_perform_of_kept {roster : Roster} {handed : List Nat}
    (sound : roster.Sound handed) {request : Request} {name : String}
    (kept : request.replaces name = false) :
    (roster.perform request).1.condition? name =
      (roster.condition? name).map fun condition => condition.after name request := by
  rw [sound.condition?_perform]
  cases request with
  | register other plan interval required =>
    exact (if_neg (of_decide_eq_false kept)).trans Option.map_id'.symm
  | _ => rfl

section

variable (past : List Request) (name : String) (plan : Plan) (interval : UInt64) (required : Bool)
  {future : List Request}

/-- The condition of a collector is what the requests since its registration have made of it. -/
theorem condition?_of_last (last : ∀ request ∈ future, request.replaces name = false) :
    (after (past ++ .register name plan interval required :: future)).condition? name =
      some (future.foldl (Condition.after name) (.fresh interval required)) := by
  induction future using List.reverseRecOn with
  | nil =>
    rw [after_concat]
    exact ((sound_after past).condition?_perform _ name).trans (if_pos rfl)
  | append_singleton earlier request inductionHypothesis =>
    have kept := last request (List.mem_append_right _ List.mem_cons_self)
    rw [← List.cons_append, ← List.append_assoc, after_concat,
      (sound_after _).condition?_perform_of_kept kept,
      inductionHypothesis fun other member => last other (List.mem_append_left _ member),
      List.foldl_concat]
    rfl

/-- The entry of a name is that of its latest registration. -/
theorem registration_of_last (last : ∀ request ∈ future, request.replaces name = false)
    {entry : Entry}
    (found : Roster.entry? (after (past ++ .register name plan interval required :: future)) name =
      some entry) : entry.registration = (past.flatMap Request.registers).length := by
  obtain ⟨member, rfl⟩ := mem_of_entry?_eq_some found
  have latest := latest_after _ entry member
  have others : ∀ registration ∈ future.flatMap Request.registers,
      entry.name ≠ registration.1 := by
    intro registration listed same
    obtain ⟨request, requested, registers⟩ := List.mem_flatMap.mp listed
    have kept := last request requested
    cases request with
    | register other plan interval required =>
      rw [List.mem_singleton.mp registers] at same
      exact of_decide_eq_false kept same.symm
    | _ => cases registers
  have registered : (past ++ .register entry.name plan interval required :: future).flatMap
      Request.registers = past.flatMap Request.registers ++ [(entry.name, plan)] ++
        future.flatMap Request.registers := by
    rw [List.flatMap_append, List.flatMap_cons, List.append_assoc]
    rfl
  rw [registered] at latest
  exact latest.unique
    ((IsLatest.new (past.flatMap Request.registers) entry.name plan).append_of_forall others)

/-- A name stands for its latest registration. -/
theorem registered_of_last (last : ∀ request ∈ future, request.replaces name = false)
    {entry : Entry}
    (found : Roster.entry? (after (past ++ .register name plan interval required :: future)) name =
      some entry) :
    (after (past ++ .register name plan interval required :: future)).registered[
      entry.registration]? = some (name, plan) := by
  rw [registration_of_last past name plan interval required last found, registered_after,
    List.flatMap_append, List.getElem?_append_right (Nat.le_refl _), Nat.sub_self]
  rfl

end

/-! ### The token above all tasks -/

/-- What is the same after each of several steps is the same after all of them. -/
theorem view_foldl {View : Type} (view : Roster → View) {step : Roster → Entry → Roster}
    (same : ∀ roster entry, view (step roster entry) = view roster) (entries : List Entry)
    (roster : Roster) : view (entries.foldl step roster) = view roster := by
  induction entries generalizing roster with
  | nil => rfl
  | cons entry rest inductionHypothesis =>
    exact (inductionHypothesis _).trans (same roster entry)

/-- Nothing but its cancellation cancels the token above all tasks. -/
theorem shutdown_perform (roster : Roster) {request : Request} (goes : request ≠ .shutdown) :
    (roster.perform request).1.shutdown = roster.shutdown := by
  have given (roster : Roster) (entry next : Entry) :
      (((roster.cancelToken entry).abortHandle entry).setEntry next).shutdown = roster.shutdown :=
    (marks_abortHandle _ entry).shutdown.trans (marks_cancelToken roster entry).shutdown
  have steps := perform_of_isStep roster request
  cases request with
  | register name plan interval required =>
    show (roster.register name plan interval required).shutdown = _
    unfold register
    cases roster.entry? name with
    | none => rfl
    | some previous => exact given _ previous _
  | startAll time =>
    show (roster.startAll time).1.shutdown = _
    rw [startAll]
    refine view_foldl Roster.shutdown (fun other entry => ?_) _ roster
    rfl
  | stopAll =>
    show roster.stopAll.1.shutdown = _
    rw [stopAll]
    refine view_foldl Roster.shutdown (fun other entry => ?_) _ roster
    exact (marks_cancelToken other entry).shutdown
  | enable name time now =>
    rcases roster.perform_enable name time now with unchanged | ⟨_, -, -, _, -, started⟩
    · rw [unchanged]
    · rw [started]
      rfl
  | disable name now =>
    rcases roster.perform_disable name now with unchanged | ⟨entry, -, disabled⟩
    · rw [unchanged]
    · rw [disabled]
      exact given roster entry (stopped entry)
  | changeInterval name seconds time =>
    rcases roster.perform_changeInterval name seconds time with
      unchanged | ⟨-, entry, -, restarted | ⟨-, changed⟩⟩
    · rw [unchanged]
    · rw [restarted]
      exact given roster entry (stopped entry)
    · rw [changed]
      rfl
  | step | stepHeedless =>
    rcases steps rfl with same | ⟨_, _, moved⟩
    · rw [same]
    · exact moved.shutdown
  | shutdown => exact absurd rfl goes

theorem shutdown_after {requests : List Request} (go : .shutdown ∉ requests) :
    (after requests).shutdown = false :=
  Machine.run_invariant_of_forall perform (fun roster => roster.shutdown = false)
    (fun roster _ goes same => (roster.shutdown_perform goes).trans same) rfl requests
    fun _ member same => go (same ▸ member)

/-! ### Running -/

/-- A collector whose passes never panic is reported as running if and only if a task of its
registration is live. -/
theorem running_iff_live {requests : List Request} {name : String} {entry : Entry}
    (registered : Roster.entry? (after requests) name = some entry) {plan : Plan}
    (standing : (after requests).registered[entry.registration]? = some (name, plan))
    (calm : ∀ number, (plan number).ending ≠ .panic) (go : .shutdown ∉ requests) :
    entry.state = .running ↔
      ∃ task ∈ (after requests).tasks, task.registration = entry.registration ∧
        task.isLive = true := by
  obtain ⟨running, -⟩ := running_iff_polled_or_panicked registered (shutdown_after go)
  constructor
  · intro runs
    rcases running.mp runs with ⟨task, member, own, live⟩ | panicked
    · have owns := owns_after registered member own (isLive_iff.mp live).2.1
      exact ⟨task, member, owns.registration, live⟩
    · obtain ⟨other, number, held, panics⟩ := panics_of_hasPanicked registered panicked
      obtain rfl : plan = other := congrArg Prod.snd (Option.some.inj (standing.symm.trans held))
      exact absurd panics (calm number)
  · rintro ⟨task, member, same, live⟩
    refine running.mpr (.inl ⟨task, member, ?_, live⟩)
    rw [collectorOf, same, standing]
    rfl

end Roster

end ServerMonitor
