/-
This file takes the end of a connection apart. A task that is told to stop goes on
until it next waits, the reader unregisters the client after it has left its loop,
and the handler does so after it has told the tasks to stop; in between anything can
happen to the registry. Each party makes moves of its own, in any order. Moves that
are not interrupted are the steps of the connection. Whoever has returned has left
nothing behind: that is the invariant, and every move keeps it.
-/

import Mathlib.Data.Option.Basic
import ServerMonitor.Connection.Basic
import ServerMonitor.Proofs.Hub.Departure

namespace ServerMonitor

/-- A connection with how far its parties have come in leaving. -/
structure Session where
  connection : Connection
  /-- The reader has left its loop and has yet to unregister the client. -/
  readerLeaves : Bool
  /-- The reader was told to stop. -/
  readerCut : Bool
  /-- The writer was told to stop. -/
  writerCut : Bool
  /-- The handler waits no more and has yet to unregister the client. -/
  handlerLeaves : Bool

namespace Session

/-- A connection whose parties are not leaving. -/
def of (connection : Connection) : Session := ⟨connection, false, false, false, false⟩

def readerEnded (session : Session) : Bool :=
  !session.connection.reader.running && !session.readerLeaves

def writerEnded (session : Session) : Bool := !session.connection.writer.running

/-! ### Moves -/

/-- What the parties of a connection do. -/
inductive Move
  /-- The reader meets something, with frames behind it. -/
  | read (arrival : Arrival) (rest : List Frame)
  /-- The reader, out of its loop, unregisters the client and ends. -/
  | readerEnds
  /-- The reader breaks down. -/
  | readerFails
  /-- The reader, told to stop, stops. -/
  | readerStops
  | write
  /-- The writer breaks down, or cannot send. -/
  | writerFails
  /-- The writer, told to stop, stops. -/
  | writerStops
  /-- The handler finds that the reader has ended and gives the writer time. -/
  | drain
  /-- The handler need not wait any more and tells the task that has not ended to stop. -/
  | leave
  /-- The handler unregisters the client and returns. -/
  | conclude

variable (rules : StreamRules) (now client : Nat)

/-- The connection and the registry after the writer has ended. -/
def withoutWriter (session : Session) (registry : Registry) : Session × Registry :=
  ({ session with connection := (session.connection.endWriter client registry).1 },
    registry.dropReceiver client)

/-- What a move does; one that the party cannot make does nothing. -/
def move (session : Session) (registry : Registry) : Move → Session × Registry
  | .read arrival rest =>
    if session.connection.reader.running then
      ({ session with
          connection := session.connection.meet rules now arrival rest
          readerLeaves := arrival.isLast },
        match arrival.controlText? with
        | some text => registry.control client text
        | none => registry)
    else (session, registry)
  | .readerEnds =>
    if session.readerLeaves then
      ({ session with readerLeaves := false }, (registry.unregister client).1)
    else (session, registry)
  | .readerFails =>
    ({ session with
      connection := { session.connection with reader := session.connection.reader.stop } },
      registry)
  | .readerStops =>
    if session.readerCut then
      ({ session with
        connection := { session.connection with reader := session.connection.reader.stop } },
        registry)
    else (session, registry)
  | .write =>
    match session.connection.writeStep? rules now registry with
    | some (connection, registry) => ({ session with connection }, registry)
    | none => (session, registry)
  | .writerFails => session.withoutWriter client registry
  | .writerStops =>
    if session.writerCut then session.withoutWriter client registry else (session, registry)
  | .drain =>
    if session.connection.handler = .serving && !session.handlerLeaves && session.readerEnded then
      ({ session with connection :=
        { session.connection with handler := .draining (now + rules.drainGrace) } }, registry)
    else (session, registry)
  | .leave =>
    match session.connection.handler with
    | .serving =>
      if session.writerEnded then
        ({ session with readerCut := true, handlerLeaves := true }, registry)
      else (session, registry)
    | .draining deadline =>
      if session.writerEnded then ({ session with handlerLeaves := true }, registry)
      else if deadline ≤ now then
        ({ session with writerCut := true, handlerLeaves := true }, registry)
      else (session, registry)
    | .returned => (session, registry)
  | .conclude =>
    if session.handlerLeaves then
      ({ session with
          connection := { session.connection with
            handler := .returned
            inbound := []
            line := session.connection.line.abandon }
          handlerLeaves := false },
        -- The queue of a writer that has ended is gone; to drop it again changes nothing.
        ((if session.writerEnded then registry.dropReceiver client else registry).unregister
          client).1)
    else (session, registry)

/-! ### Steps of the writer -/

variable {rules : StreamRules} {now client : Nat} {session : Session} {registry : Registry}

theorem errand?_alters {connection : Connection} {errand : Errand} {later : Registry}
    (found : connection.errand? now client registry = some (errand, later)) :
    registry.AltersOnly client later := by
  have received := Registry.AltersOnly.receive client registry
  rw [Connection.errand?] at found
  split at found <;> rename_i taken <;> rw [taken] at received
  · cases found
    exact received
  · cases found
    exact received
  · split at found
    · cases found
      exact received
    · cases found

/-- A step of the writer is taken only while the writer runs. It changes neither the client of the
connection nor its reader nor its handler, and of the registry only what belongs to the client. -/
theorem writeStep?_frame {connection moved : Connection} {later : Registry}
    (writes : connection.writeStep? rules now registry = some (moved, later)) :
    connection.writer.running = true ∧ moved.client = connection.client ∧
      moved.reader = connection.reader ∧ moved.handler = connection.handler ∧
      ∃ client, connection.client = some client ∧ registry.AltersOnly client later := by
  rw [Connection.writeStep?] at writes
  obtain ⟨client, own, writes⟩ := Option.bind_eq_some_iff.mp writes
  obtain ⟨_, running, writes⟩ := Option.bind_eq_some_iff.mp writes
  refine ⟨(Option.guard_eq_some' _).mp running, ?_⟩
  cases blocked : connection.line.isBlocked with
  | true =>
    -- A writer that cannot go on ends when the peer is gone.
    rw [blocked, if_pos rfl] at writes
    obtain ⟨_, -, writes⟩ := Option.bind_eq_some_iff.mp writes
    cases Option.some.inj writes
    exact ⟨rfl, rfl, rfl, client, own, .dropReceiver client registry⟩
  | false =>
    rw [blocked, if_neg Bool.false_ne_true] at writes
    obtain ⟨⟨errand, after⟩, found, writes⟩ := Option.bind_eq_some_iff.mp writes
    have altered := errand?_alters found
    have result := Option.some.inj writes
    have sent : ∀ sent : Bool,
        (if sent then connection.send errand.frame else connection).client = connection.client ∧
          (if sent then connection.send errand.frame else connection).reader =
            connection.reader ∧
          (if sent then connection.send errand.frame else connection).handler =
            connection.handler := by
      rintro (_ | _) <;> exact ⟨rfl, rfl, rfl⟩
    obtain ⟨sameClient, reader, handler⟩ := sent connection.canSend
    dsimp only at result
    split at result
    · cases result
      exact ⟨sameClient, reader, handler, client, own, altered⟩
    · cases result
      exact ⟨sameClient, reader, handler, client, own, altered.trans (.dropReceiver client after)⟩

/-! ### What a move leaves alone -/

theorem alters_withoutWriter (session : Session) (registry : Registry) :
    registry.AltersOnly client (session.withoutWriter client registry).2 :=
  .dropReceiver client registry

variable (rules now) in
theorem client_move (client : Nat) (session : Session) (registry : Registry) (move : Move) :
    (session.move rules now client registry move).1.connection.client =
      session.connection.client := by
  cases move with
  | write =>
    rw [Session.move]
    split
    · rename_i writes
      exact (writeStep?_frame writes).2.1
    · rfl
  | leave =>
    rw [Session.move]
    split
    · split <;> rfl
    · split
      · rfl
      · split <;> rfl
    · rfl
  | readerFails | writerFails => rfl
  | read | readerEnds | readerStops | writerStops | drain | conclude =>
    rw [Session.move]
    split <;> rfl

variable (rules now) in
/-- A move changes nothing in the registry but what belongs to the client. -/
theorem alters_move (own : session.connection.client = some client) (registry : Registry)
    (move : Move) :
    registry.AltersOnly client (session.move rules now client registry move).2 := by
  have nothing := Registry.AltersOnly.refl client registry
  cases move with
  | read arrival rest =>
    rw [Session.move]
    split
    · dsimp only
      split
      · exact .control client registry _
      · exact nothing
    · exact nothing
  | readerEnds =>
    rw [Session.move]
    split
    · exact .unregister client registry
    · exact nothing
  | write =>
    rw [Session.move]
    split
    · rename_i writes
      obtain ⟨-, -, -, -, other, held, alters⟩ := writeStep?_frame writes
      cases own.symm.trans held
      exact alters
    · exact nothing
  | writerFails => exact alters_withoutWriter session registry
  | writerStops =>
    rw [Session.move]
    split
    · exact alters_withoutWriter session registry
    · exact nothing
  | conclude =>
    rw [Session.move]
    split
    · dsimp only
      split
      · exact (Registry.AltersOnly.dropReceiver client registry).trans (.unregister client _)
      · exact .unregister client registry
    · exact nothing
  | leave =>
    rw [Session.move]
    split
    · split <;> exact nothing
    · split
      · exact nothing
      · split <;> exact nothing
    · exact nothing
  | readerFails => exact nothing
  | readerStops | drain =>
    rw [Session.move]
    split <;> exact nothing

/-! ### The invariant -/

/-- What every connection keeps. -/
structure Sound (session : Session) (registry : Registry) : Prop where
  /-- A connection without a client has returned and has no tasks. -/
  unserved : session.connection.client = none →
    session.connection.hasReturned = true ∧ session.readerEnded = true ∧
      session.writerEnded = true
  known : ∀ client, session.connection.client = some client →
    ∃ other ∈ registry.clients, other.id = client
  drained : ∀ deadline, session.connection.handler = .draining deadline →
    session.readerEnded = true
  /-- Who waits no more has seen the tasks end or has told them to stop. -/
  released : session.handlerLeaves = true ∨ session.connection.hasReturned = true →
    (session.readerEnded = true ∨ session.readerCut = true) ∧
      (session.writerEnded = true ∨ session.writerCut = true)
  gone : session.connection.hasReturned = true → ∀ client,
    session.connection.client = some client → registry.contains client = false

theorem Sound.congr {later : Registry} {change : Client → Client} {joining : List Client}
    (orderly : session.Sound registry) (sound : registry.Sound)
    (evolves : registry.Evolves later change joining) : session.Sound later where
  unserved := orderly.unserved
  known client own := by
    obtain ⟨other, member, rfl⟩ := orderly.known client own
    exact ⟨change other, evolves.mem_clients member, evolves.sameId other⟩
  drained := orderly.drained
  released := orderly.released
  gone returned client own := by
    obtain ⟨other, member, rfl⟩ := orderly.known client own
    exact evolves.contains_eq_false sound member (orderly.gone returned _ own)

theorem readerEnded_iff (session : Session) : session.readerEnded = true ↔
    session.connection.reader.running = false ∧ session.readerLeaves = false := by
  rw [readerEnded, Bool.and_eq_true, Bool.not_eq_true', Bool.not_eq_true']

theorem writerEnded_iff (session : Session) :
    session.writerEnded = true ↔ session.connection.writer.running = false := by
  rw [writerEnded, Bool.not_eq_true']

/-- Whether the handler stays as it is and no task that has ended comes back. -/
structure KeepsHandler (session moved : Session) : Prop where
  handler : moved.connection.handler = session.connection.handler
  handlerLeaves : moved.handlerLeaves = session.handlerLeaves
  readerCut : moved.readerCut = session.readerCut
  writerCut : moved.writerCut = session.writerCut
  reader : session.readerEnded = true → moved.readerEnded = true
  writer : session.writerEnded = true → moved.writerEnded = true

theorem KeepsHandler.refl (session : Session) : session.KeepsHandler session :=
  ⟨rfl, rfl, rfl, rfl, id, id⟩

theorem keepsHandler_readerStopped (session : Session) :
    session.KeepsHandler { session with
      connection := { session.connection with reader := session.connection.reader.stop } } :=
  ⟨rfl, rfl, rfl, rfl, fun ended =>
    (readerEnded_iff _).mpr ⟨rfl, (session.readerEnded_iff.mp ended).2⟩, id⟩

theorem keepsHandler_withoutWriter (session : Session) (registry : Registry) :
    session.KeepsHandler (session.withoutWriter client registry).1 :=
  ⟨rfl, rfl, rfl, rfl, id, fun _ => rfl⟩

/-- The handler decides when it leaves, nobody else. -/
def Move.isOfHandler : Move → Bool
  | drain | leave | conclude => true
  | _ => false

variable (rules now client) in
theorem keepsHandler_move (session : Session) (registry : Registry) {move : Move}
    (ofTask : move.isOfHandler = false) :
    session.KeepsHandler (session.move rules now client registry move).1 := by
  cases move with
  | read arrival rest =>
    rw [Session.move]
    split
    · rename_i running
      refine ⟨rfl, rfl, rfl, rfl, fun ended => ?_, id⟩
      rw [(session.readerEnded_iff.mp ended).1] at running
      cases running
    · exact .refl session
  | readerEnds =>
    rw [Session.move]
    split
    · rename_i leaves
      refine ⟨rfl, rfl, rfl, rfl, fun ended => ?_, id⟩
      rw [(session.readerEnded_iff.mp ended).2] at leaves
      cases leaves
    · exact .refl session
  | readerFails => exact session.keepsHandler_readerStopped
  | readerStops =>
    rw [Session.move]
    split
    · exact session.keepsHandler_readerStopped
    · exact .refl session
  | write =>
    rw [Session.move]
    split
    · rename_i writes
      obtain ⟨running, -, reader, handler, -⟩ := writeStep?_frame writes
      refine ⟨handler, rfl, rfl, rfl, fun ended => ?_, fun ended => ?_⟩
      · rw [readerEnded_iff] at ended ⊢
        exact ⟨reader ▸ ended.1, ended.2⟩
      · rw [session.writerEnded_iff.mp ended] at running
        cases running
    · exact .refl session
  | writerFails => exact session.keepsHandler_withoutWriter registry
  | writerStops =>
    rw [Session.move]
    split
    · exact session.keepsHandler_withoutWriter registry
    · exact .refl session
  | drain | leave | conclude => cases ofTask

section

variable (orderly : session.Sound registry) (sound : registry.Sound)
  (own : session.connection.client = some client)

include orderly sound own

/-- Who has returned before, or finds the client gone, may have returned after. -/
theorem Sound.of_moved {moved : Session} {later : Registry}
    (alters : registry.AltersOnly client later)
    (same : moved.connection.client = session.connection.client)
    (drained : ∀ deadline, moved.connection.handler = .draining deadline →
      moved.readerEnded = true)
    (released : moved.handlerLeaves = true ∨ moved.connection.hasReturned = true →
      (moved.readerEnded = true ∨ moved.readerCut = true) ∧
        (moved.writerEnded = true ∨ moved.writerCut = true))
    (gone : moved.connection.hasReturned = true →
      session.connection.hasReturned = true ∨ later.contains client = false) :
    moved.Sound later := by
  obtain ⟨change, evolves⟩ := alters.evolves
  have kept := orderly.congr sound evolves
  refine ⟨fun none => ?_, same ▸ kept.known, drained, released, fun returned other held => ?_⟩
  · rw [same, own] at none
    cases none
  · rw [same, own] at held
    cases held
    rcases gone returned with before | now
    · exact kept.gone before client own
    · exact now

/-- Every move keeps the invariant. -/
theorem Sound.move (move : Move) :
    (session.move rules now client registry move).1.Sound
      (session.move rules now client registry move).2 := by
  have alters := alters_move rules now own registry move
  have same := client_move rules now client session registry move
  cases ofHandler : move.isOfHandler with
  | false =>
    have kept := keepsHandler_move rules now client session registry ofHandler
    refine orderly.of_moved sound own alters same (fun deadline drains => ?_) (fun free => ?_)
      fun returned => ?_
    · exact kept.reader (orderly.drained deadline (kept.handler ▸ drains))
    · rw [Connection.hasReturned, kept.handler, kept.handlerLeaves] at free
      rw [kept.readerCut, kept.writerCut]
      exact (orderly.released free).imp (.imp_left kept.reader) (.imp_left kept.writer)
    · rw [Connection.hasReturned, kept.handler] at returned
      exact .inl returned
  | true =>
    cases move with
    | drain =>
      rw [Session.move]
      split
      · rename_i met
        simp only [Bool.and_eq_true, decide_eq_true_eq, Bool.not_eq_true'] at met
        obtain ⟨⟨-, waits⟩, ended⟩ := met
        refine orderly.of_moved sound own (.refl client registry) rfl (fun _ _ => ended)
          (fun free => ?_) nofun
        rcases free with leaves | returned
        · exact absurd (waits.symm.trans leaves) Bool.false_ne_true
        · cases returned
      · exact orderly
    | leave =>
      rw [Session.move]
      split
      · rename_i serving
        split
        · rename_i ended
          exact orderly.of_moved sound own (.refl client registry) rfl orderly.drained
            (fun _ => ⟨.inr rfl, .inl ended⟩) .inl
        · exact orderly
      · rename_i deadline draining
        have ended := orderly.drained deadline draining
        split
        · rename_i writer
          exact orderly.of_moved sound own (.refl client registry) rfl orderly.drained
            (fun _ => ⟨.inl ended, .inl writer⟩) .inl
        · split
          · exact orderly.of_moved sound own (.refl client registry) rfl orderly.drained
              (fun _ => ⟨.inl ended, .inr rfl⟩) .inl
          · exact orderly
      · exact orderly
    | conclude =>
      rw [Session.move] at alters ⊢
      split
      · rename_i leaves
        rw [if_pos leaves] at alters
        exact orderly.of_moved sound own alters rfl nofun (fun _ => orderly.released (.inl leaves))
          fun _ => .inr (Registry.contains_unregister _ client)
      · exact orderly
    | _ => cases ofHandler

end

/-! ### Moves that are not interrupted -/

variable (rules now client) in
/-- Moves that follow each other without anything in between. -/
def moves (start : Session × Registry) (moves : List Move) : Session × Registry :=
  moves.foldl (fun (session, registry) => session.move rules now client registry) start

/-- A step of the reader is a move, or two when it is the last one. -/
theorem moves_of_readStep? {connection moved : Connection} {later : Registry}
    (own : connection.client = some client)
    (reads : connection.readStep? rules now registry = some (moved, later)) :
    ∃ turns, moves rules now client (of connection, registry) turns = (of moved, later) := by
  rw [Connection.readStep?, own] at reads
  cases running : connection.reader.running with
  | false =>
    rw [running] at reads
    cases reads
  | true =>
    rw [running] at reads
    cases met : connection.arrival? now with
    | none =>
      rw [met] at reads
      cases reads
    | some found =>
      obtain ⟨arrival, rest⟩ := found
      rw [met] at reads
      cases reads
      have first (turns : List Move) :
          moves rules now client (of connection, registry) (.read arrival rest :: turns) =
            moves rules now client ({ of (connection.meet rules now arrival rest) with
              readerLeaves := arrival.isLast }, match arrival.controlText? with
              | some text => registry.control client text
              | none => registry) turns :=
        congrArg (fun start => moves rules now client start turns) (if_pos running)
      cases last : arrival.isLast with
      | false => exact ⟨[.read arrival rest], (first []).trans (by rw [last]; rfl)⟩
      | true =>
        exact ⟨[.read arrival rest, .readerEnds], (first [.readerEnds]).trans (by rw [last]; rfl)⟩

theorem moves_of_writeStep? {connection moved : Connection} {later : Registry}
    (writes : connection.writeStep? rules now registry = some (moved, later)) :
    moves rules now client (of connection, registry) [.write] = (of moved, later) := by
  show (of connection).move rules now client registry .write = _
  rw [Session.move]
  show (match connection.writeStep? rules now registry with
    | some (connection, registry) => _
    | none => _) = _
  rw [writes]
  rfl

theorem dropReceiver_dropReceiver (registry : Registry) (id : Nat) :
    (registry.dropReceiver id).dropReceiver id = registry.dropReceiver id := by
  simp only [Registry.dropReceiver, Registry.update, List.map_map]
  congr 2
  funext client
  by_cases own : client.id = id <;> simp [own]

/-- A step of the handler is a move, or the four in which both tasks and the handler leave. -/
theorem moves_of_handleStep? {connection moved : Connection} {later : Registry}
    (own : connection.client = some client)
    (drained : ∀ deadline, connection.handler = .draining deadline →
      connection.reader.running = false)
    (handles : connection.handleStep? rules now registry = some (moved, later)) :
    ∃ turns, ((moves rules now client (of connection, registry) turns).1.connection,
      (moves rules now client (of connection, registry) turns).2) = (moved, later) := by
  obtain ⟨_, ⟨pong, reading⟩, ⟨ping, writing⟩, handler, inbound, line, closing, peer⟩ := connection
  subst own
  let everyone : List Move := [.leave, .readerStops, .writerStops, .conclude]
  cases handler with
  | returned => cases handles
  | serving =>
    cases writing with
    | false =>
      cases handles
      exact ⟨everyone, rfl⟩
    | true =>
      cases reading with
      | true => cases handles
      | false =>
        cases handles
        exact ⟨[.drain], rfl⟩
  | draining deadline =>
    obtain rfl : reading = false := drained deadline rfl
    cases writing with
    | false =>
      cases handles
      exact ⟨everyone, rfl⟩
    | true =>
      change (if (!true || decide (deadline ≤ now)) = true then _ else _) = _ at handles
      split at handles
      · rename_i due
        cases handles
        let held : Connection := ⟨some client, ⟨pong, false⟩, ⟨ping, true⟩, .draining deadline,
          inbound, line, closing, peer⟩
        have first : (of held).move rules now client registry .leave =
            ({ of held with writerCut := true, handlerLeaves := true }, registry) :=
          if_pos (of_decide_eq_true due)
        refine ⟨everyone, ?_⟩
        have rest : moves rules now client (of held, registry) everyone = _ :=
          congrArg (fun start => moves rules now client start
            [.readerStops, .writerStops, .conclude]) first
        rw [rest]
        exact congrArg (fun later : Registry =>
          ((held.finish client registry).1, (later.unregister client).1))
          (dropReceiver_dropReceiver registry client)
      · cases handles

/-- Every step of a connection is a step of its peer, or consists of moves that are not
interrupted. -/
theorem moves_of_step? {connection moved : Connection} {later : Registry} {looking : Bool}
    (own : connection.client = some client)
    (drained : ∀ deadline, connection.handler = .draining deadline →
      connection.reader.running = false)
    (steps : connection.step? rules now looking registry = some (moved, later)) :
    (∃ turns, ((moves rules now client (of connection, registry) turns).1.connection,
      (moves rules now client (of connection, registry) turns).2) = (moved, later)) ∨
    connection.peerStep? looking = some moved ∧ later = registry := by
  rw [Connection.step?] at steps
  rcases Option.or_eq_some_iff.mp steps with reads | ⟨-, steps⟩
  · obtain ⟨turns, result⟩ := moves_of_readStep? own reads
    exact .inl ⟨turns, by rw [result]; rfl⟩
  rcases Option.or_eq_some_iff.mp steps with writes | ⟨-, steps⟩
  · exact .inl ⟨[.write], by rw [moves_of_writeStep? writes]; rfl⟩
  rcases Option.or_eq_some_iff.mp steps with handles | ⟨-, steps⟩
  · exact .inl (moves_of_handleStep? own drained handles)
  · obtain ⟨shown, looks, same⟩ := Option.map_eq_some_iff.mp steps
    cases same
    exact .inr ⟨looks, rfl⟩

end Session

end ServerMonitor
