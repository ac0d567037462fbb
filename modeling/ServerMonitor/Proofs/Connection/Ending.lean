/-
This file lets connections come to rest on a hub that has closed. Every step of a
connection asks the registry about its own client only, and whoever has returned
stays so. When nobody is registered any more the queue of a client is closed, so a
writer that need not wait for its peer has something to do until it ends, and then
the handler has. A connection that can take no step has therefore returned.
-/

import ServerMonitor.Proofs.Connection.Session

namespace ServerMonitor.Connection

/-! ### Parts -/

/-- The parts of a connection, each of which takes steps of its own. -/
inductive Part
  | reader
  | writer
  | handler
  /-- The peer, which may be made to read. -/
  | peer (looking : Bool)
  /-- The reader breaks down. -/
  | readerFails
  | writerFails

/-- One step of a part, if it can take one. -/
def partStep? (rules : StreamRules) (now : Nat) (connection : Connection) (registry : Registry) :
    Part → Option (Connection × Registry)
  | .reader => connection.readStep? rules now registry
  | .writer => connection.writeStep? rules now registry
  | .handler => connection.handleStep? rules now registry
  | .peer looking => (connection.peerStep? looking).map (·, registry)
  | .readerFails => some ({ connection with reader := connection.reader.stop }, registry)
  | .writerFails => connection.client.map fun client => connection.endWriter client registry

/-- Whether a connection that has returned, or never had a client, is over in all its parts. -/
structure Settled (connection : Connection) : Prop where
  unserved : connection.client = none → connection.hasReturned = true
  reader : connection.hasReturned = true → connection.reader.running = false
  writer : connection.hasReturned = true → connection.writer.running = false

variable {rules : StreamRules} {now : Nat} {connection moved : Connection}
  {registry later : Registry}

/-- A step of the reader is taken only while the reader runs. It changes neither the writer nor the
handler, and of the registry only what belongs to the client. -/
theorem readStep?_frame (reads : connection.readStep? rules now registry = some (moved, later)) :
    connection.reader.running = true ∧ moved.client = connection.client ∧
      moved.writer = connection.writer ∧ moved.handler = connection.handler ∧
      ∃ client, registry.AltersOnly client later := by
  rw [readStep?] at reads
  obtain ⟨client, own, reads⟩ := Option.bind_eq_some_iff.mp reads
  obtain ⟨_, running, reads⟩ := Option.bind_eq_some_iff.mp reads
  obtain ⟨⟨arrival, rest⟩, -, reads⟩ := Option.bind_eq_some_iff.mp reads
  cases Option.some.inj reads
  refine ⟨(Option.guard_eq_some' _).mp running, rfl, rfl, rfl, client, ?_⟩
  cases arrival.controlText? with
  | none =>
    split
    · exact .unregister client registry
    · exact .refl client registry
  | some text =>
    split
    · exact (Registry.AltersOnly.control client registry text).trans (.unregister client _)
    · exact .control client registry text

/-- A step of the handler ends everything or changes nothing but the handler, which has not
returned yet. -/
theorem handleStep?_frame
    (handles : connection.handleStep? rules now registry = some (moved, later)) :
    connection.hasReturned = false ∧ moved.client = connection.client ∧
      (moved.hasReturned = true → moved.reader.running = false ∧ moved.writer.running = false) ∧
      ∃ client, registry.AltersOnly client later := by
  rw [handleStep?] at handles
  obtain ⟨client, own, handles⟩ := Option.bind_eq_some_iff.mp handles
  have finished : registry.AltersOnly client (connection.finish client registry).2 :=
    (Registry.AltersOnly.dropReceiver client registry).trans (.unregister client _)
  rw [hasReturned]
  cases handler : connection.handler with
  | serving =>
    rw [handler] at handles
    change (if !connection.writer.running then _ else _) = _ at handles
    split at handles
    · cases handles
      exact ⟨rfl, rfl, fun _ => ⟨rfl, rfl⟩, client, finished⟩
    · split at handles
      · cases handles
        exact ⟨rfl, rfl, fun returned => (by cases returned), client, .refl client registry⟩
      · cases handles
  | draining deadline =>
    rw [handler] at handles
    change (if !connection.writer.running || decide (deadline ≤ now) then _ else _) = _ at handles
    split at handles
    · cases handles
      exact ⟨rfl, rfl, fun _ => ⟨rfl, rfl⟩, client, finished⟩
    · cases handles
  | returned =>
    rw [handler] at handles
    cases handles

theorem peerStep?_frame {looking : Bool} (sees : connection.peerStep? looking = some moved) :
    moved.client = connection.client ∧ moved.reader = connection.reader ∧
      moved.writer = connection.writer ∧ moved.handler = connection.handler := by
  have reveal (connection : Connection) (frame : Frame) :
      (connection.reveal frame).client = connection.client ∧
        (connection.reveal frame).reader = connection.reader ∧
        (connection.reveal frame).writer = connection.writer ∧
        (connection.reveal frame).handler = connection.handler := by
    unfold Connection.reveal
    dsimp only
    split
    · split
      · exact ⟨rfl, rfl, rfl, rfl⟩
      · split <;> exact ⟨rfl, rfl, rfl, rfl⟩
    · exact ⟨rfl, rfl, rfl, rfl⟩
    · exact ⟨rfl, rfl, rfl, rfl⟩
  rw [peerStep?] at sees
  split at sees
  · cases sees
  · split at sees
    · cases sees
      exact reveal _ _
    · split at sees
      · cases sees
        exact ⟨rfl, rfl, rfl, rfl⟩
      · cases sees

/-! ### Steps of parts -/

/-- A step of a connection is a step of one of its parts. -/
theorem exists_part_of_step? {looking : Bool} {result : Connection × Registry}
    (steps : connection.step? rules now looking registry = some result) :
    ∃ part, connection.partStep? rules now registry part = some result := by
  rw [step?, Option.or_eq_some_iff, Option.or_eq_some_iff, Option.or_eq_some_iff] at steps
  rcases steps with reads | ⟨-, writes | ⟨-, handles | ⟨-, sees⟩⟩⟩
  · exact ⟨.reader, reads⟩
  · exact ⟨.writer, writes⟩
  · exact ⟨.handler, handles⟩
  · exact ⟨.peer looking, sees⟩

/-- A step asks the registry about one client at most. -/
theorem alters_partStep? {part : Part}
    (steps : connection.partStep? rules now registry part = some (moved, later)) :
    ∃ client, registry.AltersOnly client later := by
  cases part with
  | reader => exact (readStep?_frame steps).2.2.2.2
  | writer =>
    obtain ⟨-, -, -, -, client, -, alters⟩ := Session.writeStep?_frame steps
    exact ⟨client, alters⟩
  | handler => exact (handleStep?_frame steps).2.2.2
  | peer looking =>
    obtain ⟨_, -, same⟩ := Option.map_eq_some_iff.mp steps
    cases same
    exact ⟨0, .refl 0 registry⟩
  | readerFails =>
    cases steps
    exact ⟨0, .refl 0 registry⟩
  | writerFails =>
    obtain ⟨client, -, same⟩ := Option.map_eq_some_iff.mp steps
    cases same
    exact ⟨client, .dropReceiver client registry⟩

/-- Who has returned has returned for good, and is over in all parts. -/
theorem Settled.partStep? (settled : connection.Settled) {part : Part}
    (steps : connection.partStep? rules now registry part = some (moved, later)) :
    moved.Settled ∧ (connection.hasReturned = true → moved.hasReturned = true) := by
  -- Most steps change the handler not at all, and start nothing that has ended.
  have kept (client : moved.client = connection.client)
      (handler : moved.handler = connection.handler)
      (reader : connection.reader.running = false → moved.reader.running = false)
      (writer : connection.writer.running = false → moved.writer.running = false) :
      moved.Settled ∧ (connection.hasReturned = true → moved.hasReturned = true) := by
    have same : moved.hasReturned = connection.hasReturned := by
      rw [hasReturned, hasReturned, handler]
    refine ⟨⟨?_, ?_, ?_⟩, ?_⟩
    · rw [client, same]
      exact settled.unserved
    · rw [same]
      exact reader ∘ settled.reader
    · rw [same]
      exact writer ∘ settled.writer
    · exact fun returned => same.trans returned
  cases part with
  | reader =>
    obtain ⟨running, client, writer, handler, -⟩ := readStep?_frame steps
    refine kept client handler (fun ended => ?_) fun ended => writer ▸ ended
    cases running.symm.trans ended
  | writer =>
    obtain ⟨running, client, reader, handler, -⟩ := Session.writeStep?_frame steps
    refine kept client handler (fun ended => reader ▸ ended) fun ended => ?_
    cases running.symm.trans ended
  | handler =>
    obtain ⟨goes, client, ended, -⟩ := handleStep?_frame steps
    refine ⟨⟨fun none => ?_, fun returned => (ended returned).1,
      fun returned => (ended returned).2⟩, fun returned => ?_⟩
    · rw [client] at none
      cases goes.symm.trans (settled.unserved none)
    · cases goes.symm.trans returned
  | peer looking =>
    obtain ⟨shown, sees, same⟩ := Option.map_eq_some_iff.mp steps
    cases same
    obtain ⟨client, reader, writer, handler⟩ := peerStep?_frame sees
    exact kept client handler (fun ended => reader ▸ ended) fun ended => writer ▸ ended
  | readerFails =>
    cases steps
    exact kept rfl rfl (fun _ => rfl) id
  | writerFails =>
    obtain ⟨client, -, same⟩ := Option.map_eq_some_iff.mp steps
    cases same
    exact kept rfl rfl id fun _ => rfl

/-! ### Rest -/

/-- The queue of a client that is not registered is closed. -/
theorem errand?_of_gone (gone : ∀ client ∈ registry.clients, client.isRegistered = false)
    (connection : Connection) (now client : Nat) :
    ∃ errand later, connection.errand? now client registry = some (errand, later) := by
  rw [errand?, Registry.receive]
  cases found : registry.client? client with
  | none => exact ⟨_, _, rfl⟩
  | some known =>
    have left := gone known (List.mem_of_find?_eq_some found)
    cases outbox : known.outbox with
    | nil =>
      dsimp only
      rw [outbox, left]
      exact ⟨_, _, rfl⟩
    | cons event rest =>
      dsimp only
      rw [outbox]
      exact ⟨_, _, rfl⟩

/-- A connection that can take no step although its peer takes every frame has returned, if nobody
is registered. -/
theorem Settled.hasReturned_of_rest (settled : connection.Settled)
    (gone : ∀ client ∈ registry.clients, client.isRegistered = false)
    (accepts : connection.line.isBlocked = false)
    (writes : connection.writeStep? rules now registry = none)
    (handles : connection.handleStep? rules now registry = none) :
    connection.hasReturned = true := by
  cases own : connection.client with
  | none => exact settled.unserved own
  | some client =>
    obtain ⟨errand, later, found⟩ := errand?_of_gone gone connection now client
    cases running : connection.writer.running with
    | true =>
      rw [writeStep?, own, running, accepts] at writes
      change (connection.errand? now client registry).bind _ = none at writes
      rw [found] at writes
      cases writes
    | false =>
      rw [hasReturned]
      rw [handleStep?, own, running] at handles
      cases handler : connection.handler with
      | returned => rfl
      | serving | draining =>
        rw [handler] at handles
        cases handles

end ServerMonitor.Connection
