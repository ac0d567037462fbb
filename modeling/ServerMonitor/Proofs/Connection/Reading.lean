/-
This file lets the reader of a connection run through time. Items come from the peer
at times of their own, and in between a timer goes off at the deadline that stands.
The reader ends with the first item that is a last one or at the first deadline that
passes, whichever comes first; a deadline moves with pongs only. As long as it goes
on, the deadline lies one timeout after the latest pong: that is the invariant, and
every item in time keeps it. A deadline beyond the reach of the clock breaks the
reader down, and no setting is refused for that.
-/

import ServerMonitor.Proofs.Connection.Session
import ServerMonitor.Settings.File

namespace ServerMonitor

/-! ### Items from the peer -/

/-- What comes from the peer of a connection. -/
inductive Item
  /-- A frame; reading fails on one that is not readable. -/
  | frame (frame : Frame)
  /-- The peer is gone without a word. -/
  | loss
deriving DecidableEq

namespace Item

/-- What the reader meets in an item. -/
def arrival : Item → Arrival
  | .frame sent => .ofFrame sent
  | .loss => .finish

def isPong (item : Item) : Bool :=
  match item.arrival with
  | .frame (.pong _) => true
  | _ => false

end Item

/-- A reader ends with a close frame, a failure or the end, and with nothing else. -/
theorem Arrival.isLast_iff {arrival : Arrival} :
    arrival.isLast = true ↔
      arrival = .frame .close ∨ arrival = .failure ∨ arrival = .finish := by
  rcases arrival with (_ | _ | _ | _ | _) | _ | _ <;> simp [Arrival.isLast]

/-- A connection to which something has come from its peer. -/
def Connection.bring (connection : Connection) : Item → Connection
  | .frame frame => { connection with inbound := connection.inbound ++ [frame] }
  | .loss => connection.lose

/-! ### Readers in time -/

/-- A connection whose reader works, with the registry. -/
structure Listening where
  connection : Connection
  registry : Registry
  /-- When the reader ended. -/
  ended : Option Nat

namespace Listening

variable (rules : StreamRules)

/-- A reader that starts to read for a client. -/
def start (now client : Nat) (connection : Connection) (registry : Registry) : Listening :=
  let reader := Reader.start rules.readTimeout now
  { connection := { connection with
      client := some client
      reader
      inbound := []
      peer := { connection.peer with gone := false } }
    registry
    ended := if reader.running then none else some now }

/-- The reader looks whether it has something to do. -/
def wake (now : Nat) (reading : Listening) : Listening :=
  match reading.connection.readStep? rules now reading.registry with
  | some (connection, registry) =>
    ⟨connection, registry, if connection.reader.running then none else some now⟩
  | none => reading

/-- The timer goes off at the deadline that stands. -/
def expire (reading : Listening) : Listening :=
  reading.wake rules reading.connection.reader.deadline

/-- Something comes from the peer, before or after the deadline that stands. -/
def hear (reading : Listening) (timed : Nat × Item) : Listening :=
  let waited :=
    if reading.connection.reader.deadline < timed.1 then reading.expire rules else reading
  { waited with connection := waited.connection.bring timed.2 }.wake rules timed.1

/-- The reader after items that came at their times. -/
def after (reading : Listening) (items : List (Nat × Item)) : Listening :=
  items.foldl (hear rules) reading

/-- The reader after items that came at their times, when nothing comes any more. -/
def afterAll (reading : Listening) (items : List (Nat × Item)) : Listening :=
  (reading.after rules items).expire rules

end Listening

/-! ### The deadline -/

/-- When the latest pong came, or the reader started if there was none. -/
def latestPong (start : Nat) (items : List (Nat × Item)) : Nat :=
  (items.filter (·.2.isPong)).getLast?.elim start (·.1)

/-- The deadline after items that came at their times lies one timeout after the latest pong. -/
def deadlineAfter (timeout start : Nat) (items : List (Nat × Item)) : Nat :=
  latestPong start items + timeout

theorem latestPong_concat (start : Nat) (items : List (Nat × Item)) (timed : Nat × Item) :
    latestPong start (items ++ [timed]) =
      if timed.2.isPong then timed.1 else latestPong start items := by
  rw [latestPong, List.filter_append, List.filter_singleton]
  cases timed.2.isPong with
  | true =>
    rw [cond_true, List.getLast?_concat]
    rfl
  | false =>
    rw [cond_false, List.append_nil]
    rfl

theorem latestPong_of_no_pong (start : Nat) {items : List (Nat × Item)}
    (none : ∀ timed ∈ items, timed.2.isPong = false) : latestPong start items = start := by
  rw [latestPong, List.filter_eq_nil_iff.mpr fun timed member => by simp [none timed member]]
  rfl

/-- No pong is later than everything that came. -/
theorem latestPong_le {start bound : Nat} {items : List (Nat × Item)} (begun : start ≤ bound)
    (before : ∀ timed ∈ items, timed.1 ≤ bound) : latestPong start items ≤ bound := by
  rw [latestPong]
  cases found : (items.filter (·.2.isPong)).getLast? with
  | none => exact begun
  | some timed => exact before timed (List.mem_filter.mp (List.mem_of_getLast? found)).1

/-- Whether a reader goes on through all these items: none is a last one, each comes before the
deadline that stands then, and every deadline that stood before can be represented. -/
structure Passes (timeout start : Nat) (items : List (Nat × Item)) : Prop where
  goesOn : ∀ timed ∈ items, timed.2.arrival.isLast = false
  inTime : ∀ (index : Nat) (bound : index < items.length),
    items[index].1 < deadlineAfter timeout start (items.take index)
  representable : ∀ count < items.length,
    deadlineAfter timeout start (items.take count) ≤ lastInstant

namespace Passes

variable {timeout start : Nat} {items : List (Nat × Item)} {timed : Nat × Item}

theorem nil (timeout start : Nat) : Passes timeout start [] where
  goesOn := List.forall_mem_nil _
  inTime _ bound := nomatch bound
  representable _ bound := nomatch bound

theorem concat (passes : Passes timeout start items) (goesOn : timed.2.arrival.isLast = false)
    (inTime : timed.1 < deadlineAfter timeout start items)
    (representable : deadlineAfter timeout start items ≤ lastInstant) :
    Passes timeout start (items ++ [timed]) where
  goesOn := List.forall_mem_append.mpr ⟨passes.goesOn, List.forall_mem_singleton.mpr goesOn⟩
  inTime index bound := by
    rw [List.length_append, List.length_singleton] at bound
    rcases Nat.lt_succ_iff_lt_or_eq.mp bound with earlier | rfl
    · rw [List.getElem_append_left earlier, List.take_append_of_le_length earlier.le]
      exact passes.inTime index earlier
    · rwa [List.getElem_concat_length rfl, List.take_left]
  representable count bound := by
    rw [List.length_append, List.length_singleton] at bound
    rcases Nat.lt_succ_iff_lt_or_eq.mp bound with earlier | rfl
    · rw [List.take_append_of_le_length earlier.le]
      exact passes.representable count earlier
    · rwa [List.take_left]

/-- Who goes on through all items but the last goes on through them before. -/
theorem of_concat (passes : Passes timeout start (items ++ [timed])) :
    Passes timeout start items ∧ timed.2.arrival.isLast = false ∧
      timed.1 < deadlineAfter timeout start items ∧
      deadlineAfter timeout start items ≤ lastInstant := by
  have longer : items.length < (items ++ [timed]).length := by
    rw [List.length_append, List.length_singleton]
    exact Nat.lt_succ_self _
  obtain ⟨goesOn, last⟩ := List.forall_mem_append.mp passes.goesOn
  refine ⟨⟨goesOn, fun index bound => ?_, fun count bound => ?_⟩,
    last timed (List.mem_singleton_self timed), ?_, ?_⟩
  · have inTime := passes.inTime index (bound.trans longer)
    rwa [List.getElem_append_left bound, List.take_append_of_le_length bound.le] at inTime
  · have representable := passes.representable count (bound.trans longer)
    rwa [List.take_append_of_le_length bound.le] at representable
  · have inTime := passes.inTime items.length longer
    rwa [List.getElem_concat_length rfl, List.take_left] at inTime
  · have representable := passes.representable items.length longer
    rwa [List.take_left] at representable

theorem take (passes : Passes timeout start items) (count : Nat) :
    Passes timeout start (items.take count) where
  goesOn timed member := passes.goesOn timed (List.mem_of_mem_take member)
  inTime index bound := by
    obtain ⟨before, within⟩ := Nat.lt_min.mp (List.length_take ▸ bound)
    rw [List.getElem_take, List.take_take, Nat.min_eq_left before.le]
    exact passes.inTime index within
  representable index bound := by
    obtain ⟨before, within⟩ := Nat.lt_min.mp (List.length_take ▸ bound)
    rw [List.take_take, Nat.min_eq_left before.le]
    exact passes.representable index within

/-- Everything that a reader went on through came before the deadline that stands at last. -/
theorem lt_deadline (passes : Passes timeout start items)
    (ordered : (start :: items.map (·.1)).Pairwise (· ≤ ·)) :
    ∀ timed ∈ items, timed.1 < deadlineAfter timeout start items := by
  induction items using List.reverseRecOn with
  | nil => exact List.forall_mem_nil _
  | append_singleton items timed inductionHypothesis =>
    obtain ⟨before, -, inTime, -⟩ := passes.of_concat
    rw [List.map_append, List.map_singleton, ← List.cons_append, List.pairwise_append] at ordered
    obtain ⟨earlier, -, least⟩ := ordered
    have sooner := inductionHypothesis before earlier
    have begun : start ≤ timed.1 :=
      least start List.mem_cons_self timed.1 (List.mem_singleton_self _)
    have preceding (other : Nat × Item) (member : other ∈ items) : other.1 ≤ timed.1 :=
      least other.1 (List.mem_cons_of_mem _ (List.mem_map_of_mem member)) timed.1
        (List.mem_singleton_self _)
    -- The deadline never moves back.
    have moved :
        deadlineAfter timeout start items ≤ deadlineAfter timeout start (items ++ [timed]) := by
      refine Nat.add_le_add_right ?_ timeout
      rw [latestPong_concat]
      split
      · exact latestPong_le begun preceding
      · exact Nat.le_refl _
    exact List.forall_mem_append.mpr ⟨fun other member => (sooner other member).trans_le moved,
      List.forall_mem_singleton.mpr (inTime.trans_le moved)⟩

end Passes

/-! ### Steps of the reader -/

/-- The texts by which items change a filter, in their order. -/
def controlTexts (items : List (Nat × Item)) : List String :=
  items.filterMap (·.2.arrival.controlText?)

namespace Registry

/-- The registry after a client sent these texts. -/
def controlAll (registry : Registry) (client : Nat) (texts : List String) : Registry :=
  texts.foldl (fun registry text => registry.control client text) registry

theorem controlAll_concat (registry : Registry) (client : Nat) (items : List (Nat × Item))
    (timed : Nat × Item) :
    registry.controlAll client (controlTexts (items ++ [timed])) =
      match timed.2.arrival.controlText? with
      | some text => (registry.controlAll client (controlTexts items)).control client text
      | none => registry.controlAll client (controlTexts items) := by
  rw [controlTexts, List.filterMap_append, ← controlTexts, controlAll, List.foldl_append]
  cases found : timed.2.arrival.controlText? with
  | none => simp [found, controlAll]
  | some text => simp [found, controlAll]

/-- What a client sends changes its filter and nothing else. -/
theorem controlAll_eq_update (registry : Registry) (client : Nat) (texts : List String) :
    registry.controlAll client texts = registry.update client fun entry =>
      { entry with filter := texts.foldl Filter.control entry.filter } := by
  induction texts generalizing registry with
  | nil => exact (registry.update_id client).symm
  | cons text rest inductionHypothesis =>
    show (registry.control client text).controlAll client rest = _
    rw [inductionHypothesis, control, update_update]
    · rfl
    · exact fun _ => rfl

theorem controlAll_alters (registry : Registry) (client : Nat) (texts : List String) :
    registry.AltersOnly client (registry.controlAll client texts) := by
  induction texts generalizing registry with
  | nil => exact .refl client registry
  | cons text rest inductionHypothesis =>
    exact (AltersOnly.control client registry text).trans (inductionHypothesis _)

/-- Unregistering leaves every filter as it is. -/
theorem filter_unregister (registry : Registry) (id : Nat) :
    ((registry.unregister id).1.client? id).map (·.filter) =
      (registry.client? id).map (·.filter) := by
  rw [unregister, client?_update _ _ fun client => by split <;> rfl, Option.map_map]
  refine Option.map_congr fun client _ => ?_
  show (ite _ _ _ : Client).filter = _
  split <;> rfl

theorem filter_controlAll (registry : Registry) (client : Nat) (texts : List String) :
    ((registry.controlAll client texts).client? client).map (·.filter) =
      (registry.client? client).map fun entry => texts.foldl Filter.control entry.filter := by
  rw [controlAll_eq_update, client?_update, Option.map_map]
  · rfl
  · exact fun _ => rfl

end Registry

namespace Listening

variable {rules : StreamRules} {now client : Nat} {reading : Listening}

/-- What the reader does when it meets something. -/
theorem wake_of_arrival {arrival : Arrival} {rest : List Frame}
    (own : reading.connection.client = some client)
    (running : reading.connection.reader.running = true)
    (met : reading.connection.arrival? now = some (arrival, rest)) :
    let heeded := match arrival.controlText? with
      | some text => reading.registry.control client text
      | none => reading.registry
    reading.wake rules now =
      { connection := reading.connection.meet rules now arrival rest
        registry := if arrival.isLast then (heeded.unregister client).1 else heeded
        ended :=
          if (reading.connection.reader.accept rules.readTimeout now arrival).running then none
          else some now } := by
  rw [wake, Connection.readStep?, own, running, met]
  rfl

/-- A reader that has ended does nothing. -/
theorem wake_of_ended (rules : StreamRules) (now : Nat)
    (ended : reading.connection.reader.running = false) : reading.wake rules now = reading := by
  have rests : reading.connection.readStep? rules now reading.registry = none := by
    rw [Connection.readStep?, ended]
    cases reading.connection.client <;> rfl
  rw [wake, rests]

theorem hear_of_ended (rules : StreamRules) (timed : Nat × Item)
    (ended : reading.connection.reader.running = false) :
    reading.hear rules timed =
      { reading with connection := reading.connection.bring timed.2 } := by
  have same : (if reading.connection.reader.deadline < timed.1 then reading.expire rules
      else reading) = reading := by
    rw [expire, wake_of_ended rules _ ended, ite_self]
  have stays : (reading.connection.bring timed.2).reader.running = false := by
    cases timed.2 <;> exact ended
  rw [hear, same]
  exact wake_of_ended rules timed.1 stays

/-- Nothing that comes later makes a difference once the reader has ended. -/
theorem afterAll_of_ended (rules : StreamRules) (items : List (Nat × Item))
    (ended : reading.connection.reader.running = false) :
    (reading.afterAll rules items).registry = reading.registry ∧
      (reading.afterAll rules items).ended = reading.ended := by
  induction items generalizing reading with
  | nil =>
    show (reading.expire rules).registry = _ ∧ (reading.expire rules).ended = _
    rw [expire, wake_of_ended rules _ ended]
    exact ⟨rfl, rfl⟩
  | cons timed rest inductionHypothesis =>
    have stays : (reading.connection.bring timed.2).reader.running = false := by
      cases timed.2 <;> exact ended
    show ((reading.hear rules timed).afterAll rules rest).registry = _ ∧
      ((reading.hear rules timed).afterAll rules rest).ended = _
    rw [hear_of_ended rules timed ended]
    exact inductionHypothesis stays

/-! ### The invariant -/

/-- What holds of a reader that goes on after these items. -/
structure Listens (rules : StreamRules) (start client : Nat) (registry : Registry)
    (heard : List (Nat × Item)) (reading : Listening) : Prop where
  passes : Passes rules.readTimeout start heard
  representable : deadlineAfter rules.readTimeout start heard ≤ lastInstant
  own : reading.connection.client = some client
  reader : reading.connection.reader = ⟨deadlineAfter rules.readTimeout start heard, true⟩
  inbound : reading.connection.inbound = []
  present : reading.connection.peer.gone = false
  ended : reading.ended = none
  registry : reading.registry = registry.controlAll client (controlTexts heard)

variable {registry : Registry} {start : Nat} {heard : List (Nat × Item)}

/-- A reader whose first deadline can be represented goes on at first. -/
theorem listens_start (rules : StreamRules) (now client : Nat) (connection : Connection)
    (registry : Registry) (representable : now + rules.readTimeout ≤ lastInstant) :
    (Listening.start rules now client connection registry).Listens rules now client registry
      [] where
  passes := .nil _ _
  representable := representable
  own := rfl
  reader := congrArg (Reader.mk _) (decide_eq_true representable)
  inbound := rfl
  present := rfl
  ended := if_pos (decide_eq_true representable)
  registry := rfl

/-- A deadline that passes ends the reader and unregisters its client. -/
theorem Listens.expire (listens : reading.Listens rules start client registry heard) :
    (reading.expire rules).connection.reader.running = false ∧
      (reading.expire rules).ended = some (deadlineAfter rules.readTimeout start heard) ∧
      (reading.expire rules).registry =
        ((registry.controlAll client (controlTexts heard)).unregister client).1 := by
  have met : reading.connection.arrival? reading.connection.reader.deadline =
      some (.failure, []) := by
    rw [Connection.arrival?, listens.inbound]
    dsimp only
    rw [listens.present, if_neg Bool.false_ne_true, Reader.isLate, decide_eq_true (Nat.le_refl _)]
    rfl
  rw [Listening.expire, wake_of_arrival listens.own (by rw [listens.reader]) met, listens.reader,
    listens.registry]
  exact ⟨rfl, rfl, rfl⟩

/-- An item in time is met at once. -/
theorem Listens.arrival?_bring (listens : reading.Listens rules start client registry heard)
    (timed : Nat × Item) :
    (reading.connection.bring timed.2).arrival? timed.1 = some (timed.2.arrival, []) := by
  cases timed.2 with
  | frame sent =>
    rw [Connection.bring, Connection.arrival?, listens.inbound]
    rfl
  | loss =>
    rw [Connection.bring, Connection.lose, Connection.arrival?, listens.inbound]
    rfl

/-- What an item in time does. -/
theorem Listens.hear_eq (listens : reading.Listens rules start client registry heard)
    {timed : Nat × Item} (inTime : timed.1 < deadlineAfter rules.readTimeout start heard) :
    let heeded := registry.controlAll client (controlTexts (heard ++ [timed]))
    let reader := (Reader.mk (deadlineAfter rules.readTimeout start heard) true).accept
      rules.readTimeout timed.1 timed.2.arrival
    (reading.hear rules timed).connection =
        (reading.connection.bring timed.2).meet rules timed.1 timed.2.arrival [] ∧
      (reading.hear rules timed).connection.reader = reader ∧
      (reading.hear rules timed).registry =
        (if timed.2.arrival.isLast then (heeded.unregister client).1 else heeded) ∧
      (reading.hear rules timed).ended = if reader.running then none else some timed.1 := by
  intro heeded reader
  have waits : ¬ reading.connection.reader.deadline < timed.1 := by
    rw [listens.reader]
    exact Nat.not_lt.mpr inTime.le
  have own : (reading.connection.bring timed.2).client = some client := by
    rw [← listens.own]
    cases timed.2 <;> rfl
  have same : (reading.connection.bring timed.2).reader =
      ⟨deadlineAfter rules.readTimeout start heard, true⟩ := by
    rw [← listens.reader]
    cases timed.2 <;> rfl
  have heed : heeded = match timed.2.arrival.controlText? with
      | some text => reading.registry.control client text
      | none => reading.registry := by
    rw [listens.registry]
    exact registry.controlAll_concat client heard timed
  let brought := { reading with connection := reading.connection.bring timed.2 }
  have running : brought.connection.reader.running = true := by rw [same]
  have met : brought.wake rules timed.1 = _ :=
    wake_of_arrival own running (listens.arrival?_bring timed)
  rw [hear, if_neg waits, met, heed]
  dsimp only
  rw [same]
  exact ⟨rfl, congrArg (fun reader : Reader => reader.accept _ _ _) same, rfl, rfl⟩

/-- A reader that goes on after an item in time keeps the invariant. -/
theorem Listens.hear_of_reader (listens : reading.Listens rules start client registry heard)
    {timed : Nat × Item} (inTime : timed.1 < deadlineAfter rules.readTimeout start heard)
    (goesOn : timed.2.arrival.isLast = false)
    (representable : deadlineAfter rules.readTimeout start (heard ++ [timed]) ≤ lastInstant)
    (reader : (Reader.mk (deadlineAfter rules.readTimeout start heard) true).accept
      rules.readTimeout timed.1 timed.2.arrival =
        ⟨deadlineAfter rules.readTimeout start (heard ++ [timed]), true⟩) :
    (reading.hear rules timed).Listens rules start client registry (heard ++ [timed]) := by
  obtain ⟨connection, same, heeded, ended⟩ := listens.hear_eq inTime
  refine ⟨listens.passes.concat goesOn inTime listens.representable, representable, ?_,
    same.trans reader, ?_, ?_, ?_, ?_⟩
  · rw [connection, ← listens.own]
    cases timed.2 <;> rfl
  · rw [connection]
    rfl
  · rw [connection, ← listens.present]
    match item : timed.2 with
    | .frame _ => rfl
    | .loss =>
      rw [item] at goesOn
      cases goesOn
  · rw [ended, reader]
    rfl
  · rw [heeded, goesOn]
    rfl

/-- Whatever is neither a last item nor a pong leaves the deadline where it is. -/
theorem Listens.hear_of_other (listens : reading.Listens rules start client registry heard)
    {timed : Nat × Item} (inTime : timed.1 < deadlineAfter rules.readTimeout start heard)
    (goesOn : timed.2.arrival.isLast = false)
    (same : (Reader.mk (deadlineAfter rules.readTimeout start heard) true).accept
      rules.readTimeout timed.1 timed.2.arrival =
        ⟨deadlineAfter rules.readTimeout start heard, true⟩)
    (noPong : latestPong start (heard ++ [timed]) = latestPong start heard) :
    (reading.hear rules timed).Listens rules start client registry (heard ++ [timed]) := by
  have deadline : deadlineAfter rules.readTimeout start (heard ++ [timed]) =
      deadlineAfter rules.readTimeout start heard := congrArg (· + _) noPong
  refine listens.hear_of_reader inTime goesOn ?_ ?_
  · rw [deadline]
    exact listens.representable
  · rw [deadline]
    exact same

/-- A pong moves the deadline, or breaks the reader down if the new one cannot be represented. -/
theorem Listens.hear_of_pong (listens : reading.Listens rules start client registry heard)
    {timed : Nat × Item} (inTime : timed.1 < deadlineAfter rules.readTimeout start heard)
    {content : String} (met : timed.2.arrival = .frame (.pong content))
    (pong : latestPong start (heard ++ [timed]) = timed.1) :
    (Passes rules.readTimeout start (heard ++ [timed]) ∧
        lastInstant < deadlineAfter rules.readTimeout start (heard ++ [timed]) ∧
        (reading.hear rules timed).connection.reader.running = false ∧
        (reading.hear rules timed).ended = some (latestPong start (heard ++ [timed])) ∧
        (reading.hear rules timed).registry =
          registry.controlAll client (controlTexts (heard ++ [timed]))) ∨
      (reading.hear rules timed).Listens rules start client registry (heard ++ [timed]) := by
  obtain ⟨-, reader, heeded, ended⟩ := listens.hear_eq inTime
  rw [met] at reader heeded ended
  have deadline : deadlineAfter rules.readTimeout start (heard ++ [timed]) =
      timed.1 + rules.readTimeout := congrArg (· + _) pong
  have goesOn : timed.2.arrival.isLast = false := by
    rw [met]
    rfl
  by_cases representable : timed.1 + rules.readTimeout ≤ lastInstant
  · refine .inr (listens.hear_of_reader inTime goesOn (deadline ▸ representable) ?_)
    rw [met, deadline]
    exact congrArg (Reader.mk _) (decide_eq_true representable)
  · have fails : decide (timed.1 + rules.readTimeout ≤ lastInstant) = false :=
      decide_eq_false representable
    refine .inl ⟨listens.passes.concat goesOn inTime listens.representable,
      deadline ▸ Nat.lt_of_not_le representable, ?_, ?_, heeded⟩
    · rw [reader]
      exact fails
    · rw [ended, pong]
      exact if_neg fun runs => Bool.false_ne_true (fails.symm.trans runs)

/-- A reader that goes on hears an item in time and ends with it, goes on, or breaks down because
the new deadline cannot be represented. -/
theorem Listens.hear_cases (listens : reading.Listens rules start client registry heard)
    {timed : Nat × Item} (inTime : timed.1 < deadlineAfter rules.readTimeout start heard) :
    (timed.2.arrival.isLast = true ∧
        (reading.hear rules timed).connection.reader.running = false ∧
        (reading.hear rules timed).ended = some timed.1 ∧
        (reading.hear rules timed).registry =
          ((registry.controlAll client (controlTexts heard)).unregister client).1) ∨
      (Passes rules.readTimeout start (heard ++ [timed]) ∧
        lastInstant < deadlineAfter rules.readTimeout start (heard ++ [timed]) ∧
        (reading.hear rules timed).connection.reader.running = false ∧
        (reading.hear rules timed).ended = some (latestPong start (heard ++ [timed])) ∧
        (reading.hear rules timed).registry =
          registry.controlAll client (controlTexts (heard ++ [timed]))) ∨
      (reading.hear rules timed).Listens rules start client registry (heard ++ [timed]) := by
  have pongs := latestPong_concat start heard timed
  rw [Item.isPong] at pongs
  match met : timed.2.arrival with
  | .failure | .finish | .frame .close =>
    obtain ⟨-, reader, heeded, ended⟩ := listens.hear_eq inTime
    have texts := registry.controlAll_concat client heard timed
    rw [met] at reader heeded ended texts
    exact .inl ⟨rfl, congrArg Reader.running reader, ended,
      heeded.trans (congrArg (fun last : Registry => (last.unregister client).1) texts)⟩
  | .frame (.text _) | .frame (.binary _) | .frame (.ping _) =>
    rw [met] at pongs
    exact .inr (.inr (listens.hear_of_other inTime (met ▸ rfl) (met ▸ rfl) pongs))
  | .frame (.pong content) =>
    rw [met] at pongs
    exact .inr (listens.hear_of_pong inTime met pongs)

/-! ### Runs -/

/-- A reader goes on through items that none of them ends and that are in time. -/
theorem listens_after (rules : StreamRules) (start client : Nat) (connection : Connection)
    (registry : Registry) {items : List (Nat × Item)}
    (passes : Passes rules.readTimeout start items)
    (representable : deadlineAfter rules.readTimeout start items ≤ lastInstant) :
    ((Listening.start rules start client connection registry).after rules items).Listens rules start
      client registry items := by
  induction items using List.reverseRecOn with
  | nil => exact listens_start rules start client connection registry representable
  | append_singleton items timed inductionHypothesis =>
    obtain ⟨before, goesOn, inTime, bounded⟩ := passes.of_concat
    rw [after, List.foldl_concat, ← after]
    rcases (inductionHypothesis before bounded).hear_cases inTime with
      ⟨last, -⟩ | ⟨-, beyond, -⟩ | listens
    · exact absurd last (by rw [goesOn]; exact Bool.false_ne_true)
    · exact absurd representable (Nat.not_le.mpr beyond)
    · exact listens

/-- What ends a reader that has gone on through some items, when the rest comes after them, and
when it does so. -/
inductive End (timeout start : Nat) (heard rest : List (Nat × Item)) : Nat → Prop
  /-- The next item is a last one and comes in time. -/
  | item (timed : Nat × Item) (later : List (Nat × Item)) (next : rest = timed :: later)
      (inTime : timed.1 < deadlineAfter timeout start heard)
      (last : timed.2.arrival = .frame .close ∨ timed.2.arrival = .failure ∨
        timed.2.arrival = .finish) : End timeout start heard rest timed.1
  /-- The deadline passes before anything else comes. -/
  | silence (late : ∀ timed ∈ rest, deadlineAfter timeout start heard < timed.1) :
      End timeout start heard rest (deadlineAfter timeout start heard)

/-- The end of a reader that has gone on through some items, when the rest comes after them. -/
structure EndsAfter (rules : StreamRules) (start client : Nat) (registry : Registry)
    (heard rest : List (Nat × Item)) (last : Listening) : Prop where
  passes : Passes rules.readTimeout start heard
  leaves : deadlineAfter rules.readTimeout start heard ≤ lastInstant →
    ∃ time, End rules.readTimeout start heard rest time ∧ last.ended = some time ∧
      last.registry = ((registry.controlAll client (controlTexts heard)).unregister client).1
  breaksDown : lastInstant < deadlineAfter rules.readTimeout start heard →
    last.ended = some (latestPong start heard) ∧
      last.registry = registry.controlAll client (controlTexts heard)

/-- A reader that goes on ends when its deadline passes before anything else comes. -/
theorem Listens.endsAfter_of_late (listens : reading.Listens rules start client registry heard)
    {items : List (Nat × Item)}
    (late : ∀ timed ∈ items, deadlineAfter rules.readTimeout start heard < timed.1) :
    EndsAfter rules start client registry heard items (reading.afterAll rules items) := by
  obtain ⟨stops, ended, left⟩ := listens.expire
  have same : (reading.afterAll rules items).registry = (reading.expire rules).registry ∧
      (reading.afterAll rules items).ended = (reading.expire rules).ended := by
    cases items with
    | nil => exact ⟨rfl, rfl⟩
    | cons timed rest =>
      have waits : reading.connection.reader.deadline < timed.1 := by
        rw [listens.reader]
        exact late timed List.mem_cons_self
      have first : reading.hear rules timed = (reading.expire rules).hear rules timed := by
        rw [hear_of_ended rules timed stops, hear, if_pos waits]
        exact wake_of_ended rules timed.1 (by cases timed.2 <;> exact stops)
      have through := afterAll_of_ended rules (timed :: rest) stops
      rw [afterAll, after, List.foldl_cons, ← after, ← afterAll] at through ⊢
      rwa [first]
  exact ⟨listens.passes,
    fun _ => ⟨_, .silence late, same.2.trans ended, same.1.trans left⟩,
    fun beyond => absurd listens.representable (Nat.not_le.mpr beyond)⟩

/-- A reader that has gone on through some items ends, with one of the others or at a deadline, or
breaks down. -/
theorem Listens.exists_end (listens : reading.Listens rules start client registry heard)
    {items : List (Nat × Item)} (ordered : (items.map (·.1)).Pairwise (· ≤ ·))
    (apart : ∀ (index : Nat) (bound : index < items.length),
      Passes rules.readTimeout start (heard ++ items.take index) →
      items[index].1 ≠ deadlineAfter rules.readTimeout start (heard ++ items.take index)) :
    ∃ more rest, items = more ++ rest ∧
      EndsAfter rules start client registry (heard ++ more) rest
        (reading.afterAll rules items) := by
  induction items generalizing reading heard with
  | nil =>
    refine ⟨[], [], rfl, ?_⟩
    rw [List.append_nil]
    exact listens.endsAfter_of_late (List.forall_mem_nil _)
  | cons timed rest inductionHypothesis =>
    have now : timed.1 ≠ deadlineAfter rules.readTimeout start heard := by
      have first := apart 0 (Nat.succ_pos _)
      rw [List.take_zero, List.append_nil] at first
      exact first listens.passes
    obtain ⟨least, ordered⟩ := List.pairwise_cons.mp ordered
    rcases Nat.lt_or_gt_of_ne now with inTime | tooLate
    · show ∃ more others, _ ∧
        EndsAfter _ _ _ _ _ _ ((reading.hear rules timed).afterAll rules rest)
      rcases listens.hear_cases inTime with
        ⟨last, stops, ended, left⟩ | ⟨passes, beyond, stops, ended, left⟩ | goesOn
      · have same := afterAll_of_ended rules rest stops
        refine ⟨[], timed :: rest, rfl, ?_⟩
        rw [List.append_nil]
        exact ⟨listens.passes,
          fun _ => ⟨_, .item timed rest rfl inTime (Arrival.isLast_iff.mp last),
            same.2.trans ended, same.1.trans left⟩,
          fun beyond => absurd listens.representable (Nat.not_le.mpr beyond)⟩
      · have same := afterAll_of_ended rules rest stops
        exact ⟨[timed], rest, rfl, passes,
          fun bounded => absurd bounded (Nat.not_le.mpr beyond),
          fun _ => ⟨same.2.trans ended, same.1.trans left⟩⟩
      · obtain ⟨more, others, whole, ends⟩ := inductionHypothesis goesOn ordered
          fun index bound => by
            have later := apart (index + 1) (Nat.succ_lt_succ bound)
            rwa [List.getElem_cons_succ, List.take_succ_cons, List.append_cons] at later
        rw [← List.append_cons] at ends
        exact ⟨timed :: more, others, congrArg (timed :: ·) whole, ends⟩
    · refine ⟨[], timed :: rest, rfl, ?_⟩
      rw [List.append_nil]
      refine listens.endsAfter_of_late (List.forall_mem_cons.mpr ⟨tooLate, fun other member => ?_⟩)
      exact tooLate.trans_le (least other.1 (List.mem_map_of_mem member))

/-- Whatever ends a reader, the items it went on through come before its end and the others do
not. -/
theorem End.between {timeout start time : Nat} {heard rest : List (Nat × Item)}
    (ending : End timeout start heard rest time) (passes : Passes timeout start heard)
    (ordered : (start :: (heard ++ rest).map (·.1)).Pairwise (· ≤ ·)) :
    (∀ timed ∈ heard, timed.1 ≤ time) ∧ ∀ timed ∈ rest, time ≤ timed.1 := by
  rw [List.map_append, ← List.cons_append, List.pairwise_append] at ordered
  obtain ⟨first, second, across⟩ := ordered
  cases ending with
  | item timed later next inTime last =>
    subst next
    obtain ⟨least, -⟩ := List.pairwise_cons.mp second
    exact ⟨fun other member => across other.1
        (List.mem_cons_of_mem _ (List.mem_map_of_mem member)) timed.1 List.mem_cons_self,
      List.forall_mem_cons.mpr
        ⟨Nat.le_refl _, fun other member => least other.1 (List.mem_map_of_mem member)⟩⟩
  | silence late =>
    exact ⟨fun timed member => (passes.lt_deadline first timed member).le,
      fun timed member => (late timed member).le⟩

/-- A reader that breaks down at once has no deadline to wait for. -/
theorem endsAfter_start (rules : StreamRules) (start client : Nat) (connection : Connection)
    (registry : Registry) (items : List (Nat × Item))
    (beyond : lastInstant < start + rules.readTimeout) :
    EndsAfter rules start client registry [] items
      ((Listening.start rules start client connection registry).afterAll rules items) := by
  have stops : (Listening.start rules start client connection registry).connection.reader.running =
      false := decide_eq_false (Nat.not_le.mpr beyond)
  have same := afterAll_of_ended rules items stops
  have ended : (Listening.start rules start client connection registry).ended = some start :=
    if_neg fun runs => Bool.false_ne_true (stops.symm.trans runs)
  exact ⟨.nil _ _, fun bounded => absurd bounded (Nat.not_le.mpr beyond),
    fun _ => ⟨same.2.trans ended, same.1⟩⟩

/-- A reader goes on for as long as nothing that comes is a last item and everything comes before
the deadline, which lies one timeout after the latest pong. It ends at the time of the first last
item or at the first deadline that passes, whichever is sooner, with the filter of its client
changed by exactly the texts that came before and the client unregistered; no other client is
touched. Without pongs it ends one timeout after its start at the latest. If a deadline cannot be
represented it breaks down instead, and leaves its client registered. -/
theorem reader_ends_in_time (rules : StreamRules) (start client : Nat) (connection : Connection)
    (registry : Registry) (items : List (Nat × Item))
    (ordered : (start :: items.map (·.1)).Pairwise (· ≤ ·))
    (apart : ∀ (index : Nat) (bound : index < items.length),
      Passes rules.readTimeout start (items.take index) →
      items[index].1 ≠ deadlineAfter rules.readTimeout start (items.take index)) :
    let begun := Listening.start rules start client connection registry
    let last := begun.afterAll rules items
    ∃ heard rest, items = heard ++ rest ∧ Passes rules.readTimeout start heard ∧
      (∀ count ≤ heard.length,
        deadlineAfter rules.readTimeout start (heard.take count) ≤ lastInstant →
        (begun.after rules (heard.take count)).ended = none) ∧
      (deadlineAfter rules.readTimeout start heard ≤ lastInstant →
        ∃ time, last.ended = some time ∧ End rules.readTimeout start heard rest time ∧
          (∀ timed ∈ heard, timed.1 ≤ time) ∧ (∀ timed ∈ rest, time ≤ timed.1) ∧
          last.registry = ((registry.controlAll client (controlTexts heard)).unregister client).1 ∧
          last.registry.contains client = false) ∧
      (lastInstant < deadlineAfter rules.readTimeout start heard →
        last.ended = some (latestPong start heard) ∧
          last.registry = registry.controlAll client (controlTexts heard)) ∧
      ((∀ timed ∈ heard, timed.2.isPong = false) →
        ∃ time ≤ start + rules.readTimeout, last.ended = some time) ∧
      (last.registry.client? client).map (·.filter) =
        ((registry.client? client).map fun entry =>
          (controlTexts heard).foldl Filter.control entry.filter) ∧
      ∀ other ≠ client, last.registry.client? other = registry.client? other := by
  intro begun last
  obtain ⟨heard, rest, whole, ends⟩ : ∃ heard rest, items = heard ++ rest ∧
      EndsAfter rules start client registry heard rest last := by
    by_cases representable : start + rules.readTimeout ≤ lastInstant
    · exact (listens_start rules start client connection registry representable).exists_end
        (List.Pairwise.of_cons ordered) apart
    · exact ⟨[], items, rfl, endsAfter_start rules start client connection registry items
        (Nat.lt_of_not_le representable)⟩
  have altered := registry.controlAll_alters client (controlTexts heard)
  have filtered := registry.filter_controlAll client (controlTexts heard)
  refine ⟨heard, rest, whole, ends.passes, fun count _ representable => ?_, fun representable => ?_,
    ends.breaksDown, fun noPong => ?_, ?_, fun other different => ?_⟩
  · exact (listens_after rules start client connection registry (ends.passes.take count)
      representable).ended
  · obtain ⟨time, ending, ended, left⟩ := ends.leaves representable
    obtain ⟨before, after⟩ := ending.between ends.passes (whole ▸ ordered)
    exact ⟨time, ended, ending, before, after, left, left ▸ Registry.contains_unregister _ client⟩
  · have pong := latestPong_of_no_pong start noPong
    rcases Nat.lt_or_ge lastInstant (deadlineAfter rules.readTimeout start heard) with
      beyond | representable
    · exact ⟨start, Nat.le_add_right _ _, pong ▸ (ends.breaksDown beyond).1⟩
    · obtain ⟨time, ending, ended, -⟩ := ends.leaves representable
      refine ⟨time, ?_, ended⟩
      rw [← pong]
      cases ending with
      | item _ _ _ inTime _ => exact inTime.le
      | silence _ => exact Nat.le_refl _
  · rcases Nat.lt_or_ge lastInstant (deadlineAfter rules.readTimeout start heard) with
      beyond | representable
    · rw [(ends.breaksDown beyond).2, filtered]
    · obtain ⟨-, -, -, left⟩ := ends.leaves representable
      rw [left, Registry.filter_unregister, filtered]
  · rcases Nat.lt_or_ge lastInstant (deadlineAfter rules.readTimeout start heard) with
      beyond | representable
    · rw [(ends.breaksDown beyond).2]
      exact altered.client?_of_ne different
    · obtain ⟨-, -, -, left⟩ := ends.leaves representable
      rw [left]
      exact (altered.trans (.unregister client _)).client?_of_ne different

/-- A client that sends texts, pings and other frames but no pong is dropped after a second, also
if one of the texts is no control frame. -/
theorem reader_ends_without_pongs :
    let rules : StreamRules := ⟨4, 4, 250, 1000, 0⟩
    let connection := Connection.unserved (.empty 1000) (.arrive true)
    let registry := ((Registry.withCapacity 4).register.1).register.1
    let items : List (Nat × Item) := [(100, .frame (.text "garbage")), (400, .frame (.ping "x")),
      (900, .frame (.binary "x")), (1200, .frame (.text "late"))]
    let last := (Listening.start rules 0 1 connection registry).afterAll rules items
    (0 :: items.map (·.1)).Pairwise (· ≤ ·) ∧
      (∀ (index : Nat) (bound : index < items.length),
        Passes rules.readTimeout 0 (items.take index) →
        items[index].1 ≠ deadlineAfter rules.readTimeout 0 (items.take index)) ∧
      (∃ time ≤ 1000, last.ended = some time) ∧ last.registry.client? 2 = registry.client? 2 := by
  intro rules connection registry items last
  have ordered : (0 :: items.map (·.1)).Pairwise (· ≤ ·) := by decide
  have never : ∀ (index : Nat) (bound : index < items.length),
      items[index].1 ≠ deadlineAfter rules.readTimeout 0 (items.take index) := by decide +kernel
  have apart (index : Nat) (bound : index < items.length)
      (_ : Passes rules.readTimeout 0 (items.take index)) := never index bound
  have noPong : ∀ timed ∈ items, timed.2.isPong = false := by decide +kernel
  obtain ⟨heard, rest, whole, -, -, -, -, dropped, -, others⟩ :=
    reader_ends_in_time rules 0 1 connection registry items ordered apart
  exact ⟨ordered, apart,
    dropped fun timed member => noPong timed (whole ▸ List.mem_append_left rest member),
    others 2 (by decide)⟩

/-- A read timeout beyond the reach of the clock is accepted, and the reader that gets it breaks
down at its start: nothing has come, its deadline lies one timeout later, and its client stays
registered. -/
theorem reader_breaks_down_beyond_the_clock :
    ∃ settings, Settings.ofText ⟨none, none, none⟩
        "\x7b\"websocket\":\x7b\"read_timeout_secs\":18446744073709551615\x7d\x7d" =
          .ok settings ∧
      let rules := settings.stream.rules
      let registry := (Registry.withCapacity 4).register.1
      let last := (Listening.start rules 0 1 (.unserved (.empty 1000) (.arrive true))
        registry).afterAll rules []
      0 < deadlineAfter rules.readTimeout 0 [] ∧ last.ended = some 0 ∧
        last.registry.contains 1 = true := by
  let settings : Settings :=
    { Settings.default ⟨none, none, none⟩ with stream := { readTimeout := 18446744073709551615 } }
  refine ⟨settings, rfl, ?_⟩
  intro rules registry last
  have beyond : lastInstant < 0 + rules.readTimeout := by decide
  obtain ⟨ended, left⟩ := (endsAfter_start rules 0 1 _ registry [] beyond).breaksDown beyond
  exact ⟨by decide, ended, left ▸ rfl⟩

end Listening

end ServerMonitor
