/-
This file follows one collector by itself. Its condition, which is what is
reported of it apart from its passes, changes with every request by a rule that
mentions no other collector and no task; the answers about it and the events
that announce it are read off its condition. What is to be said of one collector
is derived from these rules and does not look into the roster again.
-/

import ServerMonitor.Proofs.Collector.Request

namespace ServerMonitor

namespace Collector

/-- What is reported of a collector apart from its passes. -/
structure Condition where
  enabled : Bool
  interval : UInt64
  state : RunState
  required : Bool
deriving DecidableEq

def Entry.condition (entry : Entry) : Condition :=
  ⟨entry.enabled, entry.interval, entry.state, entry.required⟩

namespace Condition

/-- A collector that was registered. -/
def fresh (interval : UInt64) (required : Bool) : Condition :=
  ⟨interval ≠ 0, interval, if interval ≠ 0 then .registered else .disabled, required⟩

def isStartable (condition : Condition) : Bool :=
  condition.enabled && 0 < condition.interval && condition.state ≠ .running

def started (condition : Condition) : Condition :=
  { condition with enabled := true, state := .running }

def stopped (condition : Condition) : Condition := { condition with state := .stopped }

/-- A collector of this name that was asked to be enabled. -/
def enable (name : String) (condition : Condition) : Condition :=
  if condition.state = .running then condition
  else
    started { condition with
      interval := if condition.interval = 0 then defaultInterval name else condition.interval }

/-- A collector that was asked to be disabled. -/
def disable (condition : Condition) : Condition :=
  if condition.required ∨ condition.state ≠ .running then condition
  else { condition.stopped with enabled := false }

/-- What a request makes of a collector of this name. -/
def after (name : String) (condition : Condition) : Roster.Request → Condition
  | .startAll _ => if condition.isStartable then condition.started else condition
  | .stopAll => if condition.state = .running then condition.stopped else condition
  | .enable other _ _ => if other = name then condition.enable other else condition
  | .disable other _ => if other = name then condition.disable else condition
  | .changeInterval other seconds _ =>
    if other = name ∧ isAllowedInterval seconds then { condition with interval := seconds }
    else condition
  | .register _ _ _ _ | .step _ _ _ _ | .stepHeedless _ _ _ _ | .shutdown => condition

/-- The event that announces the condition of a collector. -/
def event (name : String) (condition : Condition) (now : Instant) : CollectorStateEvent where
  event := Kind.collectorState.topic
  collector := name
  enabled := condition.enabled
  state := condition.state
  interval := condition.interval
  timestamp := now

end Condition

end Collector

namespace Roster

open Collector

/-- The condition of the collector of a name. -/
def condition? (roster : Roster) (name : String) : Option Condition :=
  (roster.entry? name).map (·.condition)

/-- What is reported of a collector is its condition. -/
theorem status_of_condition {roster : Roster} {name : String} {condition : Condition}
    (held : roster.condition? name = some condition) :
    ∃ report, roster.status name = .ok report ∧ report.enabled = condition.enabled ∧
      report.interval = condition.interval ∧ report.state = condition.state ∧
      report.required = condition.required := by
  obtain ⟨entry, found, rfl⟩ := Option.map_eq_some_iff.mp held
  refine ⟨roster.statusOf entry, ?_, rfl, rfl, rfl, rfl⟩
  rw [status, found]

theorem condition?_of_status {roster : Roster} {name : String} {report : CollectorStatus}
    (status : roster.status name = .ok report) :
    ∃ condition, roster.condition? name = some condition ∧ report.enabled = condition.enabled ∧
      report.interval = condition.interval ∧ report.state = condition.state ∧
      report.required = condition.required := by
  rw [Roster.status] at status
  cases found : roster.entry? name with
  | none =>
    rw [found] at status
    cases status
  | some entry =>
    rw [found] at status
    obtain rfl := Except.ok.inj status
    exact ⟨entry.condition, congrArg (Option.map Entry.condition) found, rfl, rfl, rfl, rfl⟩

theorem condition?_setEntry (roster : Roster) (entry : Entry) (name : String) :
    (roster.setEntry entry).condition? name =
      if entry.name = name then some entry.condition else roster.condition? name := by
  rw [condition?, entry?_setEntry]
  split <;> rfl

theorem condition?_start (roster : Roster) (entry : Entry) (time : Nat) (name : String) :
    (roster.start entry time).condition? name =
      if entry.name = name then some entry.condition.started else roster.condition? name :=
  condition?_setEntry _ _ name

theorem condition?_of_entries {next : Roster} (roster : Roster)
    (same : next.entries = roster.entries) (name : String) :
    next.condition? name = roster.condition? name := by
  unfold condition? entry?
  rw [same]

theorem condition?_halt (roster : Roster) (entry : Entry) (name : String) :
    (roster.halt entry).condition? name =
      if entry.name = name then some entry.condition.stopped else roster.condition? name := by
  rw [halt, condition?_setEntry, condition?_of_entries roster (by simp)]
  rfl

/-! ### Requests about one collector -/

/-- A collector changes and the others stay as they are. -/
theorem condition?_of_change {roster next : Roster} {name : String} {entry : Entry}
    (found : roster.entry? name = some entry) {change : Condition → Condition}
    (changed : ∀ other, next.condition? other =
      if name = other then some (change entry.condition) else roster.condition? other)
    (other : String) :
    next.condition? other = (roster.condition? other).map fun condition =>
      if name = other then change condition else condition := by
  rw [changed]
  by_cases own : name = other
  · subst own
    simp [condition?, found]
  · simp [own]

/-- Nothing changes if the collector is unknown or would stay as it is. -/
theorem condition?_of_unchanged (roster : Roster) {name : String} {change : Condition → Condition}
    (idle : ∀ entry, roster.entry? name = some entry → change entry.condition = entry.condition)
    (other : String) :
    roster.condition? other = (roster.condition? other).map fun condition =>
      if name = other then change condition else condition := by
  by_cases own : name = other
  · subst own
    cases found : roster.entry? name with
    | none => simp [condition?, found]
    | some entry => simp [condition?, found, idle entry found]
  · simp [own]

theorem condition?_of_unknown (roster : Roster) {name : String} {change : Condition → Condition}
    (unknown : roster.entry? name = none) (other : String) :
    roster.condition? other = (roster.condition? other).map fun condition =>
      if name = other then change condition else condition :=
  roster.condition?_of_unchanged (fun _ held => nomatch unknown.symm.trans held) other

/-- Enabling an unknown collector is refused, and one that runs is left alone; any other is started
and its new condition is announced. -/
theorem perform_enable_eq (roster : Roster) (name : String) (time : Nat) (now : Instant) :
    roster.perform (.enable name time now) =
      match roster.entry? name with
      | none => (roster, .answered (.error (.unknown name)))
      | some entry =>
        if entry.state = .running then (roster, .answered (.ok none))
        else
          (roster.start { entry with
              interval := if entry.interval = 0 then defaultInterval name else entry.interval }
              time,
            .answered (.ok (some ((entry.condition.enable name).event name now)))) := by
  rw [perform, enable]
  cases found : roster.entry? name with
  | none => rfl
  | some entry =>
    obtain ⟨-, rfl⟩ := mem_of_entry?_eq_some found
    by_cases running : entry.state = .running
    · simp [running]
    · have current (next : Entry) (same : next.name = entry.name) :
          Roster.entry? (roster.start next time) entry.name = some { next with
            token := some roster.tasks.length
            handle := some roster.tasks.length
            state := .running
            enabled := true } := (entry?_setEntry _ _ _).trans (if_pos same)
      simp only [if_neg running, current]
      rw [Condition.enable, if_neg (show entry.condition.state ≠ _ from running)]
      rfl

/-- A required collector cannot be disabled, and one that does not run is left alone; any other is
stopped and its new condition is announced. -/
theorem perform_disable_eq (roster : Roster) (name : String) (now : Instant) :
    roster.perform (.disable name now) =
      match roster.entry? name with
      | none => (roster, .answered (.error (.unknown name)))
      | some entry =>
        if entry.required then (roster, .answered (.error (.required name)))
        else if entry.state ≠ .running then (roster, .answered (.ok none))
        else
          ((roster.halt entry).setEntry { Roster.stopped entry with enabled := false },
            .answered (.ok (some (entry.condition.disable.event name now)))) := by
  rw [perform, disable]
  cases found : roster.entry? name with
  | none => rfl
  | some entry =>
    obtain ⟨-, rfl⟩ := mem_of_entry?_eq_some found
    by_cases required : entry.required = true
    · simp [required]
    · by_cases running : entry.state ≠ .running
      · simp [required, running]
      · have active : ¬(entry.condition.required = true ∨ entry.condition.state ≠ .running) :=
          fun idle => idle.elim required running
        have current : Roster.entry? ((roster.halt entry).setEntry
            { Roster.stopped entry with enabled := false }) entry.name =
              some { Roster.stopped entry with enabled := false } :=
          (entry?_setEntry _ _ _).trans (if_pos rfl)
        simp only [if_neg required, if_neg running, current]
        rw [Condition.disable, if_neg active]
        rfl

theorem condition?_enable (roster : Roster) (name : String) (time : Nat) (now : Instant)
    (other : String) :
    (roster.perform (.enable name time now)).1.condition? other =
      (roster.condition? other).map fun condition =>
        if name = other then condition.enable name else condition := by
  rw [perform_enable_eq]
  cases found : roster.entry? name with
  | none => exact roster.condition?_of_unknown found other
  | some entry =>
    dsimp only
    by_cases running : entry.state = .running
    · rw [if_pos running]
      refine roster.condition?_of_unchanged (fun same held => ?_) other
      rw [Option.some.inj (held.symm.trans found)]
      exact if_pos running
    · rw [if_neg running]
      refine condition?_of_change found (fun other => ?_) other
      rw [condition?_start, (mem_of_entry?_eq_some found).2, Condition.enable,
        if_neg (show entry.condition.state ≠ _ from running)]
      rfl

theorem condition?_disable (roster : Roster) (name : String) (now : Instant) (other : String) :
    (roster.perform (.disable name now)).1.condition? other =
      (roster.condition? other).map fun condition =>
        if name = other then condition.disable else condition := by
  rw [perform_disable_eq]
  cases found : roster.entry? name with
  | none => exact roster.condition?_of_unknown found other
  | some entry =>
    have unchanged (idle : entry.required = true ∨ entry.state ≠ .running) :
        ∀ same, roster.entry? name = some same → same.condition.disable = same.condition := by
      intro same held
      rw [Option.some.inj (held.symm.trans found)]
      exact if_pos idle
    dsimp only
    by_cases required : entry.required = true
    · rw [if_pos required]
      exact roster.condition?_of_unchanged (unchanged (.inl required)) other
    · rw [if_neg required]
      by_cases running : entry.state ≠ .running
      · rw [if_pos running]
        exact roster.condition?_of_unchanged (unchanged (.inr running)) other
      · rw [if_neg running]
        have active : ¬(entry.condition.required = true ∨ entry.condition.state ≠ .running) :=
          fun idle => idle.elim required running
        refine condition?_of_change found (fun other => ?_) other
        rw [condition?_setEntry, condition?_halt, Condition.disable, if_neg active]
        show (if entry.name = other then _ else if entry.name = other then _ else _) = _
        rw [(mem_of_entry?_eq_some found).2]
        by_cases own : name = other
        · rw [if_pos own, if_pos own]
          rfl
        · rw [if_neg own, if_neg own, if_neg own]

namespace Sound

variable {roster : Roster} {handed : List Nat}

/-- A running collector stays enabled when it is restarted, since it was enabled before. -/
theorem condition?_changeInterval (sound : roster.Sound handed) (name : String) (seconds : UInt64)
    (time : Nat) (other : String) :
    (roster.perform (.changeInterval name seconds time)).1.condition? other =
      (roster.condition? other).map fun condition =>
        condition.after other (.changeInterval name seconds time) := by
  have rule : (fun condition : Condition =>
      condition.after other (.changeInterval name seconds time)) = fun condition =>
        if name = other then
          if isAllowedInterval seconds then { condition with interval := seconds } else condition
        else condition := by
    funext condition
    rw [Condition.after]
    by_cases own : name = other <;> simp [own]
  rw [rule, Roster.perform, Roster.changeInterval]
  cases found : roster.entry? name with
  | none => exact roster.condition?_of_unknown found other
  | some entry =>
    obtain ⟨member, rfl⟩ := mem_of_entry?_eq_some found
    dsimp only
    cases allowed : isAllowedInterval seconds with
    | false => exact roster.condition?_of_unchanged (fun _ _ => rfl) other
    | true =>
      rw [Bool.not_true, if_neg Bool.false_ne_true]
      by_cases running : entry.state = .running
      · rw [if_pos running]
        refine condition?_of_change found (fun other => ?_) other
        rw [condition?_start, condition?_halt]
        show (if entry.name = other then _ else if entry.name = other then _ else _) = _
        by_cases own : entry.name = other
        · -- To start an entry enables it; this one was enabled because it owns a task.
          obtain ⟨task, -, owns⟩ :=
            (sound.kept entry member).resolve_left fun idle => idle.state running
          rw [if_pos own, if_pos own]
          simp [Entry.condition, Condition.started, Roster.stopped, owns.enabled, running]
        · rw [if_neg own, if_neg own, if_neg own]
      · rw [if_neg running]
        exact condition?_of_change found (fun other => condition?_setEntry _ _ other) other

end Sound

theorem condition?_register (roster : Roster) (name : String) (plan : Plan) (interval : UInt64)
    (required : Bool) (other : String) :
    (roster.register name plan interval required).condition? other =
      if name = other then some (.fresh interval required) else roster.condition? other := by
  unfold register
  cases roster.entry? name with
  | none => exact condition?_setEntry _ _ other
  | some previous =>
    refine (condition?_setEntry _ _ other).trans ?_
    rw [condition?_of_entries roster (by simp)]
    rfl

/-! ### Requests about all collectors -/

/-- Collectors of a snapshot are changed one by one, each once. -/
theorem condition?_foldl {step : Roster → Entry → Roster} {change : Condition → Condition}
    {name : String}
    (each : ∀ roster entry, (step roster entry).condition? name =
      if entry.name = name then some (change entry.condition) else roster.condition? name)
    (roster : Roster) (pending : List Entry) (distinct : (pending.map (·.name)).Nodup) :
    (pending.foldl step roster).condition? name =
      ((pending.find? fun entry => entry.name = name).map fun entry =>
        change entry.condition).or (roster.condition? name) := by
  induction pending generalizing roster with
  | nil => rfl
  | cons entry rest inductionHypothesis =>
    obtain ⟨fresh, distinctRest⟩ := List.nodup_cons.mp distinct
    rw [List.foldl_cons, inductionHypothesis (step roster entry) distinctRest, each,
      List.find?_cons]
    by_cases own : entry.name = name
    · have absent : rest.find? (fun other => other.name = name) = none := by
        refine List.find?_eq_none.mpr fun other member same => fresh ?_
        exact List.mem_map.mpr ⟨other, member, (of_decide_eq_true same).trans own.symm⟩
      simp [own, absent]
    · simp [own]

/-- The collectors that a test picks are changed, all others stay as they are. -/
theorem condition?_foldl_filter (picked : Condition → Bool) {step : Roster → Entry → Roster}
    {change : Condition → Condition} {name : String}
    (each : ∀ roster entry, (step roster entry).condition? name =
      if entry.name = name then some (change entry.condition) else roster.condition? name)
    {roster : Roster} (distinct : (roster.entries.map (·.name)).Nodup) {pick : Entry → Bool}
    (faithful : ∀ entry ∈ roster.entries, pick entry = picked entry.condition) :
    ((roster.entries.filter pick).foldl step roster).condition? name =
      (roster.condition? name).map fun condition =>
        if picked condition then change condition else condition := by
  rw [condition?_foldl each _ _ ((List.filter_sublist.map _).nodup distinct),
    find?_filter_entries distinct, condition?, entry?]
  cases found : roster.entries.find? fun entry => entry.name = name with
  | none => rfl
  | some entry =>
    have same := faithful entry (List.mem_of_find?_eq_some found)
    cases test : picked entry.condition <;> simp [Option.filter, same, test]

namespace Sound

variable {roster : Roster} {handed : List Nat}

theorem condition?_startAll (sound : roster.Sound handed) (time : Nat) (name : String) :
    (roster.startAll time).1.condition? name =
      (roster.condition? name).map fun condition => condition.after name (.startAll time) :=
  condition?_foldl_filter Condition.isStartable
    (fun roster entry => roster.condition?_start entry time name) sound.distinctNames
    fun _ _ => rfl

/-- The collectors with a token are the running ones. -/
theorem condition?_stopAll (sound : roster.Sound handed) (name : String) :
    roster.stopAll.1.condition? name =
      (roster.condition? name).map fun condition => condition.after name .stopAll := by
  have each (roster : Roster) (entry : Entry) :
      ((roster.cancelToken entry).setEntry (Roster.stopped entry)).condition? name =
        if entry.name = name then some entry.condition.stopped else roster.condition? name := by
    rw [condition?_setEntry, condition?_of_entries roster (cancelToken_entries roster entry)]
    rfl
  refine (condition?_foldl_filter (fun condition => condition.state = .running) each
    sound.distinctNames fun entry member => ?_).trans ?_
  · rcases sound.kept entry member with idle | ⟨task, -, owns⟩
    · rw [idle.token]
      exact (decide_eq_false idle.state).symm
    · rw [owns.token]
      exact (decide_eq_true owns.state).symm
  · simp [Condition.after]

/-- What a request makes of a collector. -/
theorem condition?_perform (sound : roster.Sound handed) (request : Request) (name : String) :
    (roster.perform request).1.condition? name =
      match request with
      | .register other _ interval required =>
        if other = name then some (.fresh interval required) else roster.condition? name
      | _ => (roster.condition? name).map fun condition => condition.after name request := by
  have unchanged : roster.condition? name =
      (roster.condition? name).map fun condition => condition := Option.map_id'.symm
  have steps := perform_of_isStep roster request
  cases request with
  | register other plan interval required =>
    exact roster.condition?_register other plan interval required name
  | startAll time => exact sound.condition?_startAll time name
  | stopAll => exact sound.condition?_stopAll name
  | enable other time now => exact roster.condition?_enable other time now name
  | disable other now => exact roster.condition?_disable other now name
  | changeInterval other seconds time =>
    exact sound.condition?_changeInterval other seconds time name
  | step | stepHeedless =>
    refine (condition?_of_entries roster ?_ name).trans unchanged
    rcases steps rfl with same | ⟨_, _, moved⟩
    · rw [same]
    · exact moved.entries
  | shutdown => exact (condition?_of_entries roster rfl name).trans unchanged

end Sound

/-! ### Answers -/

theorem answer_enable (roster : Roster) (name : String) (time : Nat) (now : Instant) :
    (roster.perform (.enable name time now)).2 = .answered
      (match roster.condition? name with
      | none => .error (.unknown name)
      | some condition =>
        .ok (if condition.state = .running then none
          else some ((condition.enable name).event name now))) := by
  rw [perform_enable_eq, condition?]
  cases roster.entry? name with
  | none => rfl
  | some entry => by_cases running : entry.state = .running <;> simp [running, Entry.condition]

theorem answer_disable (roster : Roster) (name : String) (now : Instant) :
    (roster.perform (.disable name now)).2 = .answered
      (match roster.condition? name with
      | none => .error (.unknown name)
      | some condition =>
        if condition.required then .error (.required name)
        else
          .ok (if condition.state = .running then some (condition.disable.event name now)
            else none)) := by
  rw [perform_disable_eq, condition?]
  cases roster.entry? name with
  | none => rfl
  | some entry =>
    by_cases required : entry.required = true <;> by_cases running : entry.state = .running <;>
      simp [required, running, Entry.condition]

/-! ### Announcements -/

/-- The event that an answer asks to publish. -/
def Reply.event? : Reply → Option CollectorStateEvent
  | .answered (.ok event) => event
  | _ => none

/-- Between two rosters no collector changed but the one that an event announces, and the event
tells its new condition. -/
def Tells (roster next : Roster) : Option CollectorStateEvent → Prop
  | none => ∀ name, next.condition? name = roster.condition? name
  | some event => ∃ condition now, event = condition.event event.collector now ∧
      ∀ name, next.condition? name =
        if event.collector = name then some condition else roster.condition? name

/-- A change of one collector is told if it is announced, or is none. -/
theorem tells_of_change {roster next : Roster} {name : String} (now : Instant)
    {change : Condition → Condition} {event? : Option CollectorStateEvent}
    (changed : ∀ other, next.condition? other = (roster.condition? other).map fun condition =>
      if name = other then change condition else condition)
    (told : match event? with
      | none => ∀ condition, roster.condition? name = some condition → change condition = condition
      | some event => ∃ condition, roster.condition? name = some condition ∧
          event = (change condition).event name now) :
    roster.Tells next event? := by
  cases event? with
  | none =>
    intro other
    rw [changed]
    cases held : roster.condition? other with
    | none => rfl
    | some condition =>
      refine congrArg some ?_
      split
      · exact told condition (by rwa [‹name = other›])
      · rfl
  | some event =>
    obtain ⟨condition, held, rfl⟩ := told
    refine ⟨change condition, now, rfl, fun other => ?_⟩
    rw [changed]
    show _ = if name = other then _ else _
    by_cases own : name = other
    · subst own
      simp [held]
    · simp [own]

theorem tells_enable (roster : Roster) (name : String) (time : Nat) (now : Instant) :
    roster.Tells (roster.perform (.enable name time now)).1
      (roster.perform (.enable name time now)).2.event? := by
  refine tells_of_change now (roster.condition?_enable name time now) ?_
  rw [answer_enable]
  cases held : roster.condition? name with
  | none => nofun
  | some condition =>
    dsimp only [Reply.event?]
    by_cases running : condition.state = .running
    · rw [if_pos running]
      rintro _ ⟨⟩
      exact if_pos running
    · rw [if_neg running]
      exact ⟨condition, rfl, rfl⟩

theorem tells_disable (roster : Roster) (name : String) (now : Instant) :
    roster.Tells (roster.perform (.disable name now)).1
      (roster.perform (.disable name now)).2.event? := by
  refine tells_of_change now (roster.condition?_disable name now) ?_
  rw [answer_disable]
  cases held : roster.condition? name with
  | none => nofun
  | some condition =>
    by_cases required : condition.required = true
    · dsimp only
      rw [if_pos required]
      rintro _ ⟨⟩
      exact if_pos (.inl required)
    · dsimp only
      rw [if_neg required]
      dsimp only [Reply.event?]
      by_cases running : condition.state = .running
      · rw [if_pos running]
        exact ⟨condition, rfl, rfl⟩
      · rw [if_neg running]
        rintro _ ⟨⟩
        exact if_pos (.inr running)

end Roster

end ServerMonitor
