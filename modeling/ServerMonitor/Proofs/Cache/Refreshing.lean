/-
This file follows the state of the network services through the cache. What is
held there is the latest of what was stored and what its source gave; it counts
from the time at which it came. A reader has the source asked once if nothing is
held or what is held has reached its lifetime. A source that fails is answered for
by what is held, which stays as old as it was, so the next reader has it asked
again.
-/

import ServerMonitor.Cache.Basic
import ServerMonitor.Proofs.Machine

namespace ServerMonitor

variable {Value : Type}

/-! ### Answers -/

/-- The value that a source gives, if it gives one. -/
def Answer.value? : Answer Value → Option Value
  | .value given => some given
  | .failure | .panic => none

/-- What a reader gets when the source was asked while this was held. A source that breaks down
takes its reader with it. -/
def Answer.reading (held : Option Value) : Answer Value → Reading Value
  | .value given => .value (some given)
  | .failure => .value held
  | .panic => .panic

/-- The answers that a source has given since it was in an earlier state. -/
def Source.answersSince (source earlier : Source Value) : List (Answer Value) :=
  (List.range' earlier.calls (source.calls - earlier.calls)).map earlier.answer

theorem Source.answersSince_self (source : Source Value) : source.answersSince source = [] := by
  rw [answersSince, Nat.sub_self]
  rfl

theorem Source.answersSince_ask (source : Source Value) :
    source.ask.1.answersSince source = [source.answer source.calls] := by
  rw [answersSince, show source.ask.1.calls = source.calls + 1 from rfl, Nat.add_sub_cancel_left]
  rfl

/-! ### Cells -/

namespace AgingCell

/-- Nothing is held, or something that has reached its lifetime. -/
def IsDue (cell : AgingCell Value) (now : Nat) : Prop :=
  ∀ entry ∈ cell.held, cell.lifetime ≤ now - entry.2

theorem isFresh_eq_false_iff (cell : AgingCell Value) (now : Nat) :
    cell.isFresh now = false ↔ cell.IsDue now := by
  unfold isFresh IsDue
  cases cell.held <;> simp

theorem held_of_not_isDue {cell : AgingCell Value} {now : Nat} (fresh : ¬cell.IsDue now) :
    ∃ entry, cell.held = some entry := by
  refine Option.ne_none_iff_exists'.mp fun nothing => fresh fun entry held => ?_
  cases nothing.symm.trans held

theorem read_of_not_isDue {cell : AgingCell Value} {now : Nat} (fresh : ¬cell.IsDue now)
    (source : Source Value) : cell.read now source = (cell, source, .value cell.peek) := by
  have isFresh : cell.isFresh now = true := by
    rw [← Bool.not_eq_false, isFresh_eq_false_iff]
    exact fresh
  rw [read, if_pos isFresh]

theorem read_of_isDue {cell : AgingCell Value} {now : Nat} (due : cell.IsDue now)
    (source : Source Value) :
    cell.read now source =
      ({ cell with
          held := ((source.answer source.calls).value?.map fun value => (value, now)).or
            cell.held },
        source.ask.1, (source.answer source.calls).reading cell.peek) := by
  rw [read, (isFresh_eq_false_iff cell now).mpr due, if_neg Bool.false_ne_true]
  unfold Source.ask
  dsimp only
  cases source.answer source.calls <;> rfl

end AgingCell

/-! ### Uses -/

/-- A cache, and the milliseconds of a clock that is never set back. -/
structure Cache.Timed where
  cache : Cache
  now : Nat

namespace Cache.Timed

inductive Use
  | store (services : NetworkServices)
  /-- Time passes. -/
  | elapse (milliseconds : Nat)
  /-- The state of the network services is read. -/
  | read

/-- What a use does, and what is read by it. -/
def use : Machine Timed Use (Option (Reading NetworkServices))
  | ⟨cache, now⟩, .store services => (⟨cache.storeNetworkServices now services, now⟩, none)
  | ⟨cache, now⟩, .elapse milliseconds => (⟨cache, now + milliseconds⟩, none)
  | ⟨cache, now⟩, .read =>
    let (after, reading) := cache.readNetworkServices now
    (⟨after, now⟩, some reading)

/-- What is held, and since when. -/
def held (timed : Timed) : Option (NetworkServices × Nat) := timed.cache.networkServices.held

def source? (timed : Timed) : Option (Source NetworkServices) := timed.cache.networkServicesSource

/-- The answers that the source gives during a use. -/
def heard (timed : Timed) (use : Use) : List (Answer NetworkServices) :=
  timed.source?.elim [] fun source =>
    (timed.use use).1.source?.elim [] fun asked => asked.answersSince source

/-- What comes to be held by a use, and when: what is stored, or what the source gives. -/
def gained (timed : Timed) : Use → List (NetworkServices × Nat)
  | .store services => [(services, timed.now)]
  | .elapse _ => []
  | .read => (timed.heard .read).filterMap fun answer =>
      answer.value?.map fun services => (services, timed.now)

/-! ### One use -/

/-- A source that stays as it is has not been asked. -/
theorem heard_eq_nil {timed : Timed} {use : Use}
    (same : (timed.use use).1.source? = timed.source?) : timed.heard use = [] := by
  rw [heard, same]
  cases timed.source? with
  | none => rfl
  | some source => exact source.answersSince_self

theorem heard_store (timed : Timed) (services : NetworkServices) :
    timed.heard (.store services) = [] :=
  heard_eq_nil rfl

theorem heard_elapse (timed : Timed) (milliseconds : Nat) :
    timed.heard (.elapse milliseconds) = [] :=
  heard_eq_nil rfl

/-- Without a source the last state is read, however old. -/
theorem read_of_no_source {timed : Timed} (without : timed.source? = none) :
    timed.heard .read = [] ∧
      timed.use .read = (timed, some (.value (timed.held.map Prod.fst))) := by
  have nothing : timed.cache.networkServicesSource = none := without
  have read : timed.use .read = (timed, some (.value (timed.held.map Prod.fst))) := by
    show (let (after, reading) := timed.cache.readNetworkServices timed.now
      ((⟨after, timed.now⟩ : Timed), some reading)) = _
    rw [readNetworkServices, nothing]
    rfl
  exact ⟨heard_eq_nil (congrArg (·.1.source?) read), read⟩

/-- A state that is fresh is read without asking the source. -/
theorem read_of_fresh {timed : Timed} {source : Source NetworkServices}
    (supplied : timed.source? = some source)
    (fresh : ¬timed.cache.networkServices.IsDue timed.now) :
    timed.heard .read = [] ∧
      timed.use .read = (timed, some (.value (timed.held.map Prod.fst))) := by
  have given : timed.cache.networkServicesSource = some source := supplied
  have read : timed.use .read = (timed, some (.value (timed.held.map Prod.fst))) := by
    show (let (after, reading) := timed.cache.readNetworkServices timed.now
      ((⟨after, timed.now⟩ : Timed), some reading)) = _
    rw [readNetworkServices, given]
    dsimp only
    rw [AgingCell.read_of_not_isDue fresh, ← given]
    rfl
  exact ⟨heard_eq_nil (congrArg (·.1.source?) read), read⟩

/-- What is read when the source gives this answer. -/
structure Asked (timed : Timed) (source : Source NetworkServices)
    (answer : Answer NetworkServices) : Prop where
  heard : timed.heard .read = [answer]
  held : (timed.use .read).1.held =
    (answer.value?.map fun services => (services, timed.now)).or timed.held
  source : (timed.use .read).1.source? = some source.ask.1
  lifetime : (timed.use .read).1.cache.networkServices.lifetime =
    timed.cache.networkServices.lifetime
  now : (timed.use .read).1.now = timed.now
  reading : (timed.use .read).2 = some (answer.reading (timed.held.map Prod.fst))

/-- The source is asked once for a state that is due. -/
theorem asked_of_due {timed : Timed} {source : Source NetworkServices}
    (supplied : timed.source? = some source)
    (due : timed.cache.networkServices.IsDue timed.now) :
    timed.Asked source (source.answer source.calls) := by
  have given : timed.cache.networkServicesSource = some source := supplied
  have read : timed.cache.readNetworkServices timed.now =
      ({ timed.cache with
          networkServices := { timed.cache.networkServices with
            held := ((source.answer source.calls).value?.map
              fun services => (services, timed.now)).or timed.held }
          networkServicesSource := some source.ask.1 },
        (source.answer source.calls).reading (timed.held.map Prod.fst)) := by
    rw [readNetworkServices, given]
    dsimp only
    rw [AgingCell.read_of_isDue due]
    rfl
  have used : timed.use .read = (⟨_, timed.now⟩, some _) :=
    congrArg (fun result : Cache × Reading NetworkServices =>
      ((⟨result.1, timed.now⟩ : Timed), some result.2)) read
  refine ⟨?_, congrArg (·.1.held) used, congrArg (·.1.source?) used,
    congrArg (·.1.cache.networkServices.lifetime) used, congrArg (·.1.now) used,
    congrArg Prod.snd used⟩
  rw [heard, used, supplied]
  exact source.answersSince_ask

/-- To read the state leaves everything as it is, or has the source asked once. -/
theorem read_cases (timed : Timed) :
    timed.heard .read = [] ∧ timed.use .read = (timed, some (.value (timed.held.map Prod.fst))) ∨
      ∃ source, timed.source? = some source ∧ timed.cache.networkServices.IsDue timed.now ∧
        timed.Asked source (source.answer source.calls) := by
  cases supplied : timed.source? with
  | none => exact .inl (read_of_no_source supplied)
  | some source =>
    by_cases due : timed.cache.networkServices.IsDue timed.now
    · exact .inr ⟨source, rfl, due, asked_of_due supplied due⟩
    · exact .inl (read_of_fresh supplied due)

/-- What is held changes by what is gained and by nothing else. -/
theorem held_use (timed : Timed) (use : Use) :
    (timed.use use).1.held = (timed.gained use).getLast?.or timed.held := by
  cases use with
  | store services => rfl
  | elapse milliseconds => rfl
  | read =>
    rw [gained]
    rcases timed.read_cases with ⟨silent, unchanged⟩ | ⟨source, -, -, asked⟩
    · rw [silent, unchanged]
      rfl
    · rw [asked.heard, asked.held]
      cases source.answer source.calls <;> rfl

/-- The source counts the answers that it gives. -/
theorem source?_use (timed : Timed) (use : Use) :
    (timed.use use).1.source? = timed.source?.map fun source =>
      { source with calls := source.calls + (timed.heard use).length } := by
  cases use with
  | store services =>
    rw [heard_store]
    exact Option.map_id'.symm
  | elapse milliseconds =>
    rw [heard_elapse]
    exact Option.map_id'.symm
  | read =>
    rcases timed.read_cases with ⟨silent, unchanged⟩ | ⟨source, supplied, -, asked⟩
    · rw [silent, unchanged]
      exact Option.map_id'.symm
    · rw [asked.heard, asked.source, supplied]
      rfl

/-- No use changes the lifetime or sets the clock back. -/
theorem use_frame (timed : Timed) (use : Use) :
    (timed.use use).1.cache.networkServices.lifetime = timed.cache.networkServices.lifetime ∧
      timed.now ≤ (timed.use use).1.now := by
  cases use with
  | store services => exact ⟨rfl, Nat.le_refl _⟩
  | elapse milliseconds => exact ⟨rfl, Nat.le_add_right _ _⟩
  | read =>
    rcases timed.read_cases with ⟨-, unchanged⟩ | ⟨source, -, -, asked⟩
    · rw [unchanged]
      exact ⟨rfl, Nat.le_refl _⟩
    · exact ⟨asked.lifetime, Nat.le_of_eq asked.now.symm⟩

/-! ### Runs -/

/-- The cache after some uses. -/
def after (start : Timed) (uses : List Use) : Timed := Machine.run use start uses

/-- What came to be held in a run, in that order. -/
def gains (start : Timed) (uses : List Use) : List (NetworkServices × Nat) :=
  Machine.log use gained start uses

/-- The answers that the source gave in a run, in that order. -/
def answers (start : Timed) (uses : List Use) : List (Answer NetworkServices) :=
  Machine.log use heard start uses

theorem after_concat (start : Timed) (past : List Use) (use : Use) :
    start.after (past ++ [use]) = ((start.after past).use use).1 :=
  Machine.run_concat _ start past use

theorem gains_concat (start : Timed) (past : List Use) (use : Use) :
    start.gains (past ++ [use]) = start.gains past ++ (start.after past).gained use :=
  Machine.log_concat _ gained start past use

theorem answers_concat (start : Timed) (past : List Use) (use : Use) :
    start.answers (past ++ [use]) = start.answers past ++ (start.after past).heard use :=
  Machine.log_concat _ heard start past use

theorem held_after (start : Timed) (uses : List Use) :
    (start.after uses).held = (start.gains uses).getLast?.or start.held := by
  induction uses using List.reverseRecOn with
  | nil => rfl
  | append_singleton past use inductionHypothesis =>
    rw [after_concat, held_use, inductionHypothesis, gains_concat, List.getLast?_append,
      Option.or_assoc]

theorem source?_after (start : Timed) (uses : List Use) :
    (start.after uses).source? = start.source?.map fun source =>
      { source with calls := source.calls + (start.answers uses).length } := by
  induction uses using List.reverseRecOn with
  | nil => exact Option.map_id'.symm
  | append_singleton past use inductionHypothesis =>
    rw [after_concat, source?_use, inductionHypothesis, answers_concat, List.length_append,
      Option.map_map]
    congr 1
    funext source
    simp only [Function.comp_apply, Nat.add_assoc]

theorem after_frame (start : Timed) (uses : List Use) :
    (start.after uses).cache.networkServices.lifetime = start.cache.networkServices.lifetime ∧
      start.now ≤ (start.after uses).now := by
  refine Machine.run_invariant use (fun timed =>
    timed.cache.networkServices.lifetime = start.cache.networkServices.lifetime ∧
      start.now ≤ timed.now) (fun timed use ⟨lifetime, now⟩ => ?_) ⟨rfl, Nat.le_refl _⟩ uses
  obtain ⟨sameLifetime, later⟩ := timed.use_frame use
  exact ⟨sameLifetime.trans lifetime, Nat.le_trans now later⟩

/-- What is due stays due as long as nothing is gained. -/
theorem isDue_after {start : Timed} (due : start.cache.networkServices.IsDue start.now)
    {uses : List Use} (idle : start.gains uses = []) :
    (start.after uses).cache.networkServices.IsDue (start.after uses).now := by
  obtain ⟨lifetime, later⟩ := start.after_frame uses
  have same : (start.after uses).cache.networkServices.held = start.cache.networkServices.held := by
    have held := start.held_after uses
    rw [idle] at held
    exact held
  -- What is held is what was held before, and it has only grown older.
  intro entry member
  rw [same] at member
  have reached := due entry member
  rw [lifetime]
  omega

/-- What is read is what is held afterwards, unless the source breaks down. -/
theorem reading_cases (timed : Timed) :
    timed.heard .read = [.panic] ∧ (timed.use .read).2 = some .panic ∨
      timed.heard .read ≠ [.panic] ∧
        (timed.use .read).2 = some (.value ((timed.use .read).1.held.map Prod.fst)) := by
  rcases timed.read_cases with ⟨silent, unchanged⟩ | ⟨source, -, -, asked⟩
  · rw [silent, unchanged]
    exact .inr ⟨nofun, rfl⟩
  · rw [asked.heard, asked.reading, asked.held]
    cases source.answer source.calls with
    | value services => exact .inr ⟨nofun, rfl⟩
    | failure => exact .inr ⟨nofun, rfl⟩
    | panic => exact .inl ⟨rfl, rfl⟩

/-- After a failure the source is asked again, unless something has come to be held meanwhile. -/
theorem asked_again_of_failed {timed : Timed} (failed : timed.heard .read = [.failure])
    {later : List Use} (idle : (timed.use .read).1.gains later = []) :
    (((timed.use .read).1.after later).heard .read).length = 1 := by
  rcases timed.read_cases with ⟨silent, -⟩ | ⟨source, -, due, asked⟩
  · cases silent.symm.trans failed
  · have gaveNothing : source.answer source.calls = .failure :=
      (List.cons.inj (asked.heard.symm.trans failed)).1
    have same : (timed.use .read).1.cache.networkServices.held =
        timed.cache.networkServices.held := by
      refine asked.held.trans ?_
      rw [gaveNothing]
      rfl
    have stillDue : (timed.use .read).1.cache.networkServices.IsDue (timed.use .read).1.now := by
      rw [AgingCell.IsDue, same, asked.lifetime, asked.now]
      exact due
    have supplied := ((timed.use .read).1.source?_after later).trans
      (congrArg (Option.map _) asked.source)
    rw [(asked_of_due supplied (isDue_after stillDue idle)).heard]
    rfl

/-! ### The history -/

/-- What a use stores, if anything. -/
def Use.stored? : Use → Option NetworkServices
  | .store services => some services
  | .elapse _ | .read => none

/-- Without a source nothing is gained but what is stored. -/
theorem gains_of_no_source {start : Timed} (without : start.source? = none) (uses : List Use) :
    (start.gains uses).map Prod.fst = uses.filterMap Use.stored? := by
  induction uses using List.reverseRecOn with
  | nil => rfl
  | append_singleton past use inductionHypothesis =>
    rw [gains_concat, List.map_append, inductionHypothesis, List.filterMap_append]
    cases use with
    | store services => rfl
    | elapse milliseconds => rfl
    | read =>
      have still : (start.after past).source? = none := by
        rw [source?_after, without]
        rfl
      rw [gained, (read_of_no_source still).1]
      rfl

/-- The state of the network services follows its history: what was stored, and what the source
gave. The latest of these is held, with the time at which it came. The source is asked once, for its
next answer, if nothing is held or what is held has reached its lifetime, and otherwise not at all.
What is read is the answer, or what is held if the source was not asked or failed; a source that
breaks down takes its reader with it. As long as nothing new has come after a failure, each reader
has the source asked again. Nothing is read only if nothing ever came. Without a source the last
state that was stored is read, however old. -/
theorem network_services_follow_history (cache : Cache) (lifetime now : Nat)
    (source : Option (Source NetworkServices)) (uses : List Use) :
    let start : Timed := ⟨{ cache.withLifetime lifetime with networkServicesSource := source }, now⟩
    let timed := start.after uses
    let held := (start.gains uses).getLast?
    let due := ∀ entry ∈ held, lifetime ≤ timed.now - entry.2
    let next := timed.use .read
    timed.held = held ∧
    (∀ given, source = some given →
      let answer := given.answer (given.calls + (start.answers uses).length)
      (due → timed.heard .read = [answer] ∧
        next.2 = some (answer.reading (held.map Prod.fst))) ∧
      (¬due → timed.heard .read = [] ∧
        ∃ services since, held = some (services, since) ∧
          next.2 = some (.value (some services))) ∧
      (timed.heard .read = [.failure] → ∀ later, next.1.gains later = [] →
        ((next.1.after later).heard .read).length = 1)) ∧
    (next.2 = some (.value none) → start.gains (uses ++ [.read]) = []) ∧
    (source = none → timed.heard .read = [] ∧
      next.2 = some (.value (uses.filterMap Use.stored?).getLast?)) := by
  intro start timed held due next
  have isHeld : timed.held = held := (start.held_after uses).trans Option.or_none
  have isDue : timed.cache.networkServices.IsDue timed.now ↔ due := by
    have sameLifetime : timed.cache.networkServices.lifetime = lifetime :=
      (start.after_frame uses).1
    rw [AgingCell.IsDue, sameLifetime, show timed.cache.networkServices.held = held from isHeld]
  have supplied {given : Source NetworkServices} (same : source = some given) :
      timed.source? =
        some { given with calls := given.calls + (start.answers uses).length } := by
    refine (start.source?_after uses).trans ?_
    rw [show start.source? = some given from same]
    rfl
  refine ⟨isHeld, fun given same => ?_, fun absent => ?_, fun without => ?_⟩
  · intro answer
    refine ⟨fun reached => ?_, fun fresh => ?_, fun failed later idle => ?_⟩
    · have asked := asked_of_due (supplied same) (isDue.mpr reached)
      exact ⟨asked.heard, isHeld ▸ asked.reading⟩
    · obtain ⟨silent, read⟩ := read_of_fresh (supplied same) fun reached => fresh (isDue.mp reached)
      obtain ⟨⟨services, since⟩, isSome⟩ :=
        AgingCell.held_of_not_isDue fun reached => fresh (isDue.mp reached)
      have known : timed.held = some (services, since) := isSome
      refine ⟨silent, services, since, isHeld.symm.trans known, ?_⟩
      rw [show next = _ from read, known]
      rfl
    · exact asked_again_of_failed failed idle
  · rcases timed.reading_cases with ⟨-, broke⟩ | ⟨-, read⟩
    · cases broke.symm.trans absent
    · have nothing : next.1.held = none :=
        Option.map_eq_none_iff.mp (Reading.value.inj (Option.some.inj (read.symm.trans absent)))
      have isLast := start.held_after (uses ++ [.read])
      rw [after_concat, show ((start.after uses).use .read).1.held = none from nothing] at isLast
      exact List.getLast?_eq_none_iff.mp (Option.or_eq_none_iff.mp isLast.symm).1
  · obtain ⟨silent, read⟩ :=
      read_of_no_source ((start.source?_after uses).trans (congrArg (Option.map _) without))
    refine ⟨silent, (congrArg Prod.snd read).trans ?_⟩
    rw [show (start.after uses).held = held from isHeld, ← List.getLast?_map,
      gains_of_no_source (show start.source? = none from without)]

/-- A state that was derived thirty milliseconds ago is due if it lives that long. Its source fails
now, so it is read once more, and the source is asked again five milliseconds later. -/
theorem last_state_of_failing_source :
    let services := NetworkServices.ofServices [⟨"smb", true, true, some 445⟩] .epoch
    let source := Source.ofList [.failure, .value services, .failure]
    let start : Timed := ⟨{ Cache.empty.withLifetime 30 with
      networkServicesSource := some source }, 0⟩
    let timed := start.after [.read, .elapse 10, .read, .elapse 30]
    timed.heard .read = [.failure] ∧ (timed.use .read).2 = some (.value (some services)) ∧
      (((timed.use .read).1.after [.elapse 5]).heard .read).length = 1 := by
  intro services source start timed
  obtain ⟨-, supplied, -, -⟩ := network_services_follow_history .empty 30 0 (some source)
    [.read, .elapse 10, .read, .elapse 30]
  obtain ⟨ofDue, -, again⟩ := supplied source rfl
  obtain ⟨heard, reading⟩ := ofDue fun entry held => by
    rw [show entry = (services, 10) from (Option.some.inj held).symm]
    exact Nat.le_refl 30
  have failed : timed.heard .read = [.failure] := heard
  exact ⟨failed, reading, again failed [.elapse 5] rfl⟩

end Cache.Timed

end ServerMonitor
