/-
This file follows the writer of a connection while everything around it goes on. The
writer chooses freely between its queue and a ping that is due; events are put into
the queue, the client is removed, the peer reads or leaves, and the writer may be
told to stop. While it works, the texts that it has sent, followed by those of the
events that still wait, are the texts of all events that were queued: that is the
invariant. Only an empty queue that is closed leads to the close frame, and after
that, or after a frame that was not taken, the writer tries nothing more. Whatever
else makes it end is told turn by turn.
-/

import ServerMonitor.Proofs.Connection.Session

namespace ServerMonitor

/-! ### Errands -/

namespace Connection

/-- The connection and the registry after the writer has tried to do an errand. -/
def carryOut (rules : StreamRules) (client : Nat) (errand : Errand) (connection : Connection)
    (registry : Registry) : Connection × Registry :=
  let sent := connection.canSend
  let written := if sent then connection.send errand.frame else connection
  let moved := { written with writer := connection.writer.settle rules.pingInterval errand sent }
  if moved.writer.running then (moved, registry) else moved.endWriter client registry

variable {rules : StreamRules} {now client : Nat} {connection : Connection} {registry : Registry}

/-- A writer that can send does its next errand. -/
theorem writeStep?_of_free (own : connection.client = some client)
    (running : connection.writer.running = true) (free : connection.line.isBlocked = false) :
    connection.writeStep? rules now registry =
      (connection.errand? now client registry).map fun (errand, later) =>
        connection.carryOut rules client errand later := by
  rw [writeStep?, own, running, free]
  change (connection.errand? now client registry).bind _ = _
  rw [Option.map_eq_bind]
  rfl

/-- A writer whose last frame is stuck waits for the peer to read, and gives up if it is gone. -/
theorem writeStep?_of_blocked (own : connection.client = some client)
    (running : connection.writer.running = true) (blocked : connection.line.isBlocked = true) :
    connection.writeStep? rules now registry =
      if connection.peer.gone then some (connection.endWriter client registry) else none := by
  rw [writeStep?, own, running, blocked]
  cases connection.peer.gone <;> rfl

theorem writeStep?_of_ended (ended : connection.writer.running = false) :
    connection.writeStep? rules now registry = none := by
  rw [writeStep?, ended]
  cases connection.client <;> rfl

/-- What an errand leaves behind. -/
theorem carryOut_spec (rules : StreamRules) (client : Nat) (errand : Errand)
    (connection : Connection) (registry : Registry) :
    let goesOn := (connection.writer.settle rules.pingInterval errand connection.canSend).running
    let done := connection.carryOut rules client errand registry
    done.1.client = connection.client ∧ done.1.writer.running = goesOn ∧
      done.1.line.frames = connection.line.frames ++
        (if connection.canSend then [errand.frame] else []) ∧
      done.2 = if goesOn then registry else registry.dropReceiver client := by
  intro goesOn done
  have written : ∀ sent : Bool,
      (if sent then connection.send errand.frame else connection).client = connection.client ∧
        (if sent then connection.send errand.frame else connection).line.frames =
          connection.line.frames ++ if sent then [errand.frame] else [] := by
    rintro (_ | _)
    · exact ⟨rfl, (List.append_nil _).symm⟩
    · exact ⟨rfl, rfl⟩
  obtain ⟨own, frames⟩ := written connection.canSend
  have result : done = if goesOn then
      ({ (if connection.canSend then connection.send errand.frame else connection) with
        writer := connection.writer.settle rules.pingInterval errand connection.canSend },
        registry)
    else ({ (if connection.canSend then connection.send errand.frame else connection) with
        writer := (connection.writer.settle rules.pingInterval errand connection.canSend).stop },
        registry.dropReceiver client) := rfl
  cases goes : goesOn with
  | true =>
    rw [result, goes]
    exact ⟨own, goes, frames, rfl⟩
  | false =>
    rw [result, goes]
    exact ⟨own, rfl, frames, rfl⟩

/-- The next errand is the oldest event that waits, or else the close frame if the queue is closed,
or else a ping that is due. -/
theorem errand?_cases {errand : Errand} {later : Registry} {entry : Client}
    (found : registry.client? client = some entry)
    (next : connection.errand? now client registry = some (errand, later)) :
    (∃ event rest, errand = .event event ∧ entry.outbox = event :: rest ∧
        later = registry.update client fun other => { other with outbox := rest }) ∨
      (errand = .farewell ∧ entry.outbox = [] ∧ entry.isRegistered = false ∧ later = registry) ∨
      (errand = .ping ∧ later = registry) := by
  rw [errand?, Registry.receive, found] at next
  dsimp only at next
  cases outbox : entry.outbox with
  | cons event rest =>
    rw [outbox] at next
    cases next
    exact .inl ⟨event, rest, rfl, rfl, rfl⟩
  | nil =>
    rw [outbox] at next
    cases registered : entry.isRegistered with
    | false =>
      rw [registered] at next
      cases next
      exact .inr (.inl ⟨rfl, rfl, rfl, rfl⟩)
    | true =>
      rw [registered] at next
      change (if connection.writer.isPingDue now then some (Errand.ping, registry) else none) =
        some (errand, later) at next
      split at next
      · cases next
        exact .inr (.inr ⟨rfl, rfl⟩)
      · cases next

end Connection

/-! ### Writers at work -/

/-- A connection whose writer works, with the registry. -/
structure Writing where
  now : Nat
  connection : Connection
  registry : Registry
  /-- The events that were put into the queue of the client, oldest first. -/
  queued : List Event
  /-- The frames that the writer tried to send, oldest first, and whether they were taken. -/
  attempts : List (Frame × Bool)
  /-- Whether the writer ended in another way than with the close frame. -/
  failed : Bool

/-- Whether a request uses the receiver of a client, which belongs to its writer. -/
def Registry.Request.usesReceiver (client : Nat) : Request → Bool
  | .receive id | .dropReceiver id => id = client
  | _ => false

namespace Client

variable (client : Client) (capacity : Nat)

/-- Whoever has not the receiver of a client leaves it there. -/
theorem listening_after_of_other {request : Registry.Request}
    (other : request.usesReceiver client.id = false) :
    (client.after capacity request).listening = client.listening := by
  cases request with
  | register => rfl
  | fanOut event => exact client.offered_listening capacity event
  | shutdown => exact client.removed_listening .cleared
  | unregister id => rw [after]; split <;> simp
  | setFilter id _ | control id _ | receive id => rw [after]; split <;> rfl
  | dropReceiver id => rw [after, if_neg fun own => of_decide_eq_false other own.symm]

/-- Whoever has not the receiver of a client takes nothing from its queue. -/
theorem outbox_after_of_other {request : Registry.Request}
    (other : request.usesReceiver client.id = false) :
    (client.after capacity request).outbox =
      client.outbox ++ client.admitted capacity request := by
  cases request with
  | fanOut event =>
    rw [after, admitted, offered]
    cases client.reach capacity event.name with
    | skipped | slow => exact (List.append_nil _).symm
    | reached => rfl
  | register => exact (List.append_nil _).symm
  | shutdown => simp [after, admitted]
  | unregister id => rw [after]; split <;> simp [admitted]
  | setFilter id _ | control id _ => rw [after]; split <;> exact (List.append_nil _).symm
  | receive id | dropReceiver id =>
    rw [after, if_neg fun own => of_decide_eq_false other own.symm]
    exact (List.append_nil _).symm

@[simp] theorem take_listening (event : Event) :
    (client.take capacity event).listening = client.listening := by
  unfold take
  split <;> rfl

theorem outbox_take (event : Event) :
    (client.take capacity event).outbox =
      client.outbox ++ client.admitted capacity (.fanOut event) := by
  rw [take, admitted]
  split
  · rfl
  · exact (List.append_nil _).symm

/-- Nothing is put into the queue of a client whose receiver is gone. -/
theorem admitted_of_not_listening (request : Registry.Request)
    (silent : client.listening = false) : client.admitted capacity request = [] := by
  cases request with
  | fanOut event =>
    refine if_neg fun reached => Bool.false_ne_true ?_
    exact silent.symm.trans (listening_of_reach_eq_reached reached)
  | _ => rfl

end Client

namespace Writing

inductive Turn
  /-- The writer takes a step. -/
  | write
  /-- A ping is due, and the writer chooses it whatever waits. -/
  | tick
  /-- The writer is told to stop. -/
  | stop
  /-- Something is asked of the registry. -/
  | ask (request : Registry.Request)
  /-- A fan-out passes one client. -/
  | pass (event : Event) (id : Nat)
  /-- A fan-out removes clients that it found slow, whichever they are. -/
  | evict (slow : List Nat)
  /-- Anything happens to the connection without its writer. -/
  | surround (around : Connection)
  | elapse (milliseconds : Nat)

variable (rules : StreamRules) (client : Nat)

/-- A writer that starts to write for a peer. -/
def start (now : Nat) (registry : Registry) (line : Line) (peer : Peer) : Writing :=
  let (connection, registry) := Connection.start rules now registry line peer
  ⟨now, connection, registry, [], [], !connection.writer.running⟩

/-- The writer after it was made to end. -/
def halt (writing : Writing) : Writing :=
  { writing with
    connection := (writing.connection.endWriter client writing.registry).1
    registry := writing.registry.dropReceiver client
    failed := true }

/-- The writer after it has tried to do an errand. -/
def attempt (writing : Writing) (errand : Errand) (later : Registry) : Writing :=
  { writing with
    connection := (writing.connection.carryOut rules client errand later).1
    registry := (writing.connection.carryOut rules client errand later).2
    attempts := writing.attempts ++ [(errand.frame, writing.connection.canSend)]
    failed := !writing.connection.canSend }

/-- What the writer tries to send if it takes a step now. -/
def next? (writing : Writing) : Option (Frame × Bool) :=
  if writing.connection.line.isBlocked then none
  else (writing.connection.errand? writing.now client writing.registry).map fun (errand, _) =>
    (errand.frame, writing.connection.canSend)

/-- What a fan-out of an event puts into the queue of the client. -/
def admitted (writing : Writing) (request : Registry.Request) : List Event :=
  (writing.registry.client? client).elim [] (·.admitted writing.registry.capacity request)

/-- What a turn does. -/
def perform : Machine Writing Turn Unit
  | writing, .write =>
    match writing.connection.writeStep? rules writing.now writing.registry with
    | some (connection, registry) =>
      ({ writing with
        connection
        registry
        attempts := writing.attempts ++ (writing.next? client).toList
        failed := (writing.next? client).elim true (!·.2) }, ())
    | none => (writing, ())
  | writing, .tick =>
    if writing.connection.writer.running && !writing.connection.line.isBlocked &&
        writing.connection.writer.isPingDue writing.now then
      (writing.attempt rules client .ping writing.registry, ())
    else (writing, ())
  | writing, .stop =>
    if writing.connection.writer.running then (writing.halt client, ()) else (writing, ())
  | writing, .ask request =>
    if request.usesReceiver client then (writing, ())
    else
      ({ writing with
        registry := (writing.registry.perform request).1
        queued := writing.queued ++ writing.admitted client request }, ())
  | writing, .pass event id =>
    ({ writing with
      registry := writing.registry.update id (·.take writing.registry.capacity event)
      queued := writing.queued ++ if id = client then writing.admitted client (.fanOut event)
        else [] }, ())
  | writing, .evict slow => ({ writing with registry := (writing.registry.evict slow).1 }, ())
  | writing, .surround around =>
    ({ writing with connection :=
      { around with
        client := writing.connection.client
        writer := writing.connection.writer } }, ())
  | writing, .elapse milliseconds => ({ writing with now := writing.now + milliseconds }, ())

/-- What the writer tried to send, without the pings. -/
def contents (writing : Writing) : List Frame :=
  (writing.attempts.map (·.1)).filter (· ≠ .ping "")

end Writing

/-- What an errand adds to the frames that are no pings. -/
def Errand.contents : Errand → List Frame
  | .event announced => [.text announced.toText]
  | .ping => []
  | .farewell => [.close]

/-- The texts of events. -/
def texts (events : List Event) : List Frame := events.map fun event => .text event.toText

/-- The frame that follows the texts of a client: none as long as it is registered. -/
def Client.farewell (entry : Client) : List Frame := if entry.isRegistered then [] else [.close]

/-! ### The invariant -/

namespace Writing

/-- What holds while the writer works. -/
structure Works (entry : Client) (writing : Writing) : Prop where
  listening : entry.listening = true
  unfailed : writing.failed = false
  sent : ∀ attempt ∈ writing.attempts, attempt.2 = true ∧ attempt.1 ≠ .close
  contents : writing.contents ++ texts entry.outbox = texts writing.queued

/-- What holds after the writer has ended. -/
structure Over (entry : Client) (writing : Writing) : Prop where
  silent : entry.listening = false
  sent : ∀ attempt ∈ writing.attempts.dropLast, attempt.2 = true ∧ attempt.1 ≠ .close
  contents : writing.contents <+: texts writing.queued ++ entry.farewell
  finished : writing.failed = false → entry.isRegistered = false ∧
    writing.contents = texts writing.queued ++ [.close] ∧
    ∀ attempt ∈ writing.attempts, attempt.2 = true
  broken : writing.failed = true → (.close, true) ∉ writing.attempts

/-- What holds in every run. -/
structure Faithful (client : Nat) (writing : Writing) : Prop where
  sound : writing.registry.Sound
  own : writing.connection.client = some client
  stage : ∃ entry, writing.registry.client? client = some entry ∧
    if writing.connection.writer.running then Works entry writing else Over entry writing

section Contents

variable {writing : Writing} {entry : Client}

theorem contents_attempt (rules : StreamRules) (client : Nat) (writing : Writing)
    (errand : Errand) (later : Registry) :
    (writing.attempt rules client errand later).contents =
      writing.contents ++ errand.contents := by
  rw [contents, attempt, List.map_append, List.filter_append]
  cases errand <;> rfl

theorem texts_append (events more : List Event) :
    texts (events ++ more) = texts events ++ texts more :=
  List.map_append

/-- More events that are queued make a difference only while the writer works. -/
theorem Works.of_grown (works : Works entry writing) {grown : Writing} {changed : Client}
    (added : List Event) (listening : changed.listening = entry.listening)
    (outbox : changed.outbox = entry.outbox ++ added)
    (queued : grown.queued = writing.queued ++ added) (attempts : grown.attempts = writing.attempts)
    (failed : grown.failed = writing.failed) : Works changed grown where
  listening := listening.trans works.listening
  unfailed := failed.trans works.unfailed
  sent := attempts ▸ works.sent
  contents := by
    rw [Writing.contents, attempts, ← Writing.contents, outbox, queued, texts_append, texts_append,
      ← List.append_assoc, works.contents]

theorem Over.of_same (past : Over entry writing) {same : Writing} {changed : Client}
    (silent : changed.listening = false)
    (staysOut : entry.isRegistered = false → changed.isRegistered = false)
    (queued : same.queued = writing.queued) (attempts : same.attempts = writing.attempts)
    (failed : same.failed = writing.failed) : Over changed same where
  silent := silent
  sent := attempts ▸ past.sent
  contents := by
    rw [Writing.contents, attempts, ← Writing.contents, queued]
    refine past.contents.trans (List.prefix_append_right_inj _ |>.mpr ?_)
    cases before : entry.isRegistered with
    | false =>
      have same : entry.farewell = changed.farewell := by
        rw [Client.farewell, Client.farewell, before, staysOut before]
      exact same ▸ List.prefix_rfl
    | true =>
      rw [Client.farewell, before]
      exact List.nil_prefix
  finished fine := by
    obtain ⟨gone, contents, sent⟩ := past.finished (failed ▸ fine)
    refine ⟨staysOut gone, ?_, attempts ▸ sent⟩
    rw [Writing.contents, attempts, ← Writing.contents, queued, contents]
  broken broke := attempts ▸ past.broken (failed ▸ broke)

end Contents

/-! ### Steps of the writer -/

section Attempt

variable {rules : StreamRules} {client : Nat} {writing : Writing} {entry changed : Client}
  {errand : Errand} {later : Registry}

/-- A frame that is not taken is the last attempt. -/
theorem Works.attempt_of_refused (works : Works entry writing)
    (refused : writing.connection.canSend = false) (silent : changed.listening = false)
    (allowed : writing.contents ++ errand.contents <+: texts writing.queued ++ changed.farewell) :
    Over changed (writing.attempt rules client errand later) where
  silent := silent
  sent := by
    rw [attempt, List.dropLast_concat]
    exact works.sent
  contents := contents_attempt rules client writing errand later ▸ allowed
  finished fine := by
    rw [attempt, refused] at fine
    cases fine
  broken _ found := by
    rw [attempt, refused] at found
    rcases List.mem_append.mp found with before | last
    · exact (works.sent _ before).2 rfl
    · cases congrArg Prod.snd (List.mem_singleton.mp last)

/-- After a frame that is taken, other than a close frame, the writer goes on. -/
theorem Works.attempt_of_sent (works : Works entry writing)
    (taken : writing.connection.canSend = true) (listening : changed.listening = true)
    (notClose : errand.frame ≠ .close)
    (exact : writing.contents ++ (errand.contents ++ texts changed.outbox) =
      texts writing.queued) :
    Works changed (writing.attempt rules client errand later) where
  listening := listening
  unfailed := by
    rw [attempt, taken]
    rfl
  sent := by
    rw [attempt, taken]
    exact List.forall_mem_append.mpr
      ⟨works.sent, List.forall_mem_singleton.mpr ⟨rfl, notClose⟩⟩
  contents := by
    rw [contents_attempt, List.append_assoc]
    exact exact

/-- The close frame is sent after everything that was queued, and is the last one. -/
theorem Works.attempt_farewell (works : Works entry writing)
    (taken : writing.connection.canSend = true) (silent : changed.listening = false)
    (gone : changed.isRegistered = false) (everything : writing.contents = texts writing.queued) :
    Over changed (writing.attempt rules client .farewell later) where
  silent := silent
  sent := by
    rw [attempt, List.dropLast_concat]
    exact works.sent
  contents := by
    rw [contents_attempt, everything, Client.farewell, gone]
    exact List.prefix_rfl
  finished _ := by
    refine ⟨gone, ?_, ?_⟩
    · rw [contents_attempt, everything]
      rfl
    · rw [attempt, taken]
      exact List.forall_mem_append.mpr
        ⟨fun other member => (works.sent other member).1, List.forall_mem_singleton.mpr rfl⟩
  broken broke := by
    rw [attempt, taken] at broke
    cases broke

/-- A writer that is made to end has sent a part of what was queued. -/
theorem Works.halt (works : Works entry writing) (silent : changed.listening = false) :
    Over changed (writing.halt client) where
  silent := silent
  sent attempt member := works.sent attempt ((List.dropLast_sublist _).subset member)
  contents := by
    show writing.contents <+: texts writing.queued ++ changed.farewell
    rw [← works.contents, List.append_assoc]
    exact List.prefix_append _ _
  finished fine := by cases fine
  broken _ found := (works.sent _ found).2 rfl

end Attempt

/-! ### Turns -/

section Turns

variable {rules : StreamRules} {client : Nat} {writing : Writing} {entry : Client}

theorem dropReceiver_found {registry : Registry} (sound : registry.Sound)
    (found : registry.client? client = some entry) :
    (registry.dropReceiver client).Sound ∧ (registry.dropReceiver client).client? client =
      some { entry with listening := false, outbox := [] } := by
  refine ⟨sound.perform (.dropReceiver client), ?_⟩
  rw [Registry.dropReceiver, Registry.client?_update, found]
  · rfl
  · exact fun _ => rfl

theorem Faithful.of_works (sound : writing.registry.Sound)
    (own : writing.connection.client = some client)
    (found : writing.registry.client? client = some entry)
    (running : writing.connection.writer.running = true) (works : Works entry writing) :
    writing.Faithful client :=
  ⟨sound, own, entry, found, by rwa [if_pos running]⟩

theorem Faithful.of_over (sound : writing.registry.Sound)
    (own : writing.connection.client = some client)
    (found : writing.registry.client? client = some entry)
    (ended : writing.connection.writer.running = false) (past : Over entry writing) :
    writing.Faithful client :=
  ⟨sound, own, entry, found, by rwa [if_neg (ended ▸ Bool.false_ne_true)]⟩

theorem Faithful.halt (faithful : writing.Faithful client)
    (running : writing.connection.writer.running = true) :
    (writing.halt client).Faithful client := by
  obtain ⟨entry, found, stage⟩ := faithful.stage
  rw [if_pos running] at stage
  obtain ⟨sound, dropped⟩ := dropReceiver_found faithful.sound found
  exact .of_over sound faithful.own dropped rfl (stage.halt rfl)

/-- What the writer tries next is allowed: it is the close frame after everything that was queued,
or leaves the rest of it to be sent. -/
theorem Works.next (works : Works entry writing) (sound : writing.registry.Sound)
    (found : writing.registry.client? client = some entry) {errand : Errand} {later : Registry}
    (next : errand = .ping ∧ later = writing.registry ∨
      writing.connection.errand? writing.now client writing.registry = some (errand, later)) :
    later.Sound ∧ ∃ changed, later.client? client = some changed ∧ changed.listening = true ∧
      writing.contents ++ errand.contents <+: texts writing.queued ++ changed.farewell ∧
      (errand = .farewell ∧ changed.isRegistered = false ∧
          writing.contents = texts writing.queued ∨
        errand.frame ≠ .close ∧
          writing.contents ++ (errand.contents ++ texts changed.outbox) =
            texts writing.queued) := by
  have ping :
      writing.contents ++ Errand.ping.contents <+: texts writing.queued ++ entry.farewell := by
    rw [Errand.contents, List.append_nil, ← works.contents, List.append_assoc]
    exact List.prefix_append _ _
  rcases next with ⟨rfl, rfl⟩ | next
  · exact ⟨sound, entry, found, works.listening, ping, .inr ⟨nofun, works.contents⟩⟩
  · rcases Connection.errand?_cases found next with
      ⟨event, rest, rfl, outbox, rfl⟩ | ⟨rfl, outbox, gone, rfl⟩ | ⟨rfl, rfl⟩
    · have exact : writing.contents ++ ([.text event.toText] ++ texts rest) =
          texts writing.queued := by
        rw [← works.contents, outbox]
        rfl
      have evolves : writing.registry.Evolves
          (writing.registry.update client fun other => { other with outbox := rest }) _ [] :=
        writing.registry.evolves_update client (fun _ => rfl) fun _ gone => gone
      have taken := evolves.client?_of_found sound found
      rw [if_pos (writing.registry.id_of_found found)] at taken
      refine ⟨evolves.sound sound, _, taken, works.listening, ?_, .inr ⟨nofun, exact⟩⟩
      · rw [← exact, ← List.append_assoc, List.append_assoc _ _ (Client.farewell _)]
        exact List.prefix_append _ _
    · have everything : writing.contents = texts writing.queued := by
        rw [← works.contents, outbox]
        exact (List.append_nil _).symm
      refine ⟨sound, entry, found, works.listening, ?_, .inl ⟨rfl, gone, everything⟩⟩
      rw [everything, Client.farewell, gone]
      exact List.prefix_rfl
    · exact ⟨sound, entry, found, works.listening, ping, .inr ⟨nofun, works.contents⟩⟩

/-- Whatever the writer tries next, the invariant is kept. -/
theorem Faithful.attempt (faithful : writing.Faithful client)
    (running : writing.connection.writer.running = true) {errand : Errand} {later : Registry}
    (next : errand = .ping ∧ later = writing.registry ∨
      writing.connection.errand? writing.now client writing.registry = some (errand, later)) :
    (writing.attempt rules client errand later).Faithful client := by
  obtain ⟨entry, found, works⟩ := faithful.stage
  rw [if_pos running] at works
  obtain ⟨sound, changed, changedFound, listening, allowed, what⟩ :=
    works.next faithful.sound found next
  obtain ⟨droppedSound, dropped⟩ := dropReceiver_found sound changedFound
  obtain ⟨own, goesOn, -, left⟩ :=
    Connection.carryOut_spec rules client errand writing.connection later
  -- Whoever has ended has dropped the receiver.
  have ends (ended : (writing.connection.writer.settle rules.pingInterval errand
        writing.connection.canSend).running = false)
      (past : Over { changed with listening := false, outbox := [] }
        (writing.attempt rules client errand later)) :
      (writing.attempt rules client errand later).Faithful client := by
    have same : (writing.attempt rules client errand later).registry = later.dropReceiver client :=
      left.trans (if_neg (ended ▸ Bool.false_ne_true))
    exact .of_over (same ▸ droppedSound) (own.trans faithful.own) (same ▸ dropped)
      (goesOn.trans ended) past
  cases sent : writing.connection.canSend with
  | false =>
    refine ends ?_ (works.attempt_of_refused sent rfl allowed)
    rw [sent]
    rfl
  | true =>
    rcases what with ⟨rfl, gone, everything⟩ | ⟨notClose, exact⟩
    · refine ends ?_ (works.attempt_farewell sent rfl gone everything)
      rw [sent]
      rfl
    · have continues : (writing.connection.writer.settle rules.pingInterval errand
          writing.connection.canSend).running = true := by
        rw [sent]
        cases errand with
        | event _ | ping => exact running
        | farewell => exact absurd rfl notClose
      have same : (writing.attempt rules client errand later).registry = later :=
        left.trans (if_pos continues)
      exact .of_works (by rwa [same]) (own.trans faithful.own) (by rwa [same])
        (goesOn.trans continues) (works.attempt_of_sent sent listening notClose exact)

/-- A writer whose last frame is stuck waits on, or ends if the peer is gone. -/
theorem perform_write_of_blocked (rules : StreamRules)
    (own : writing.connection.client = some client)
    (running : writing.connection.writer.running = true)
    (blocked : writing.connection.line.isBlocked = true) :
    (writing.perform rules client .write).1 =
      if writing.connection.peer.gone then writing.halt client else writing := by
  rw [perform, Connection.writeStep?_of_blocked own running blocked, next?, if_pos blocked]
  cases writing.connection.peer.gone with
  | false => rfl
  | true =>
    rw [if_pos rfl]
    exact congrArg (fun attempts => { writing.halt client with attempts }) (List.append_nil _)

/-- A writer that can send tries to do its next errand, if there is one. -/
theorem perform_write_of_free (rules : StreamRules)
    (own : writing.connection.client = some client)
    (running : writing.connection.writer.running = true)
    (free : writing.connection.line.isBlocked = false) :
    (writing.perform rules client .write).1 =
      (writing.connection.errand? writing.now client writing.registry).elim writing fun next =>
        writing.attempt rules client next.1 next.2 := by
  rw [perform, Connection.writeStep?_of_free own running free, next?,
    if_neg (free ▸ Bool.false_ne_true)]
  cases writing.connection.errand? writing.now client writing.registry <;> rfl

/-- A step of the writer is none, an attempt to do the next errand, or its end. -/
theorem perform_write (rules : StreamRules) (own : writing.connection.client = some client) :
    (writing.perform rules client .write).1 = writing ∨
      writing.connection.writer.running = true ∧
        ((writing.perform rules client .write).1 = writing.halt client ∨
          ∃ errand later,
            writing.connection.errand? writing.now client writing.registry = some (errand, later) ∧
              (writing.perform rules client .write).1 =
                writing.attempt rules client errand later) := by
  cases running : writing.connection.writer.running with
  | false =>
    rw [perform, Connection.writeStep?_of_ended running]
    exact .inl rfl
  | true =>
    cases blocked : writing.connection.line.isBlocked with
    | true =>
      rw [perform_write_of_blocked rules own running blocked]
      cases writing.connection.peer.gone with
      | false => exact .inl rfl
      | true => exact .inr ⟨rfl, .inl rfl⟩
    | false =>
      rw [perform_write_of_free rules own running blocked]
      cases writing.connection.errand? writing.now client writing.registry with
      | none => exact .inl rfl
      | some next => exact .inr ⟨rfl, .inr ⟨next.1, next.2, rfl, rfl⟩⟩

/-- What happens to the registry without the writer keeps the invariant. -/
theorem Faithful.of_evolves (faithful : writing.Faithful client) {later : Registry}
    {change : Client → Client} {joining : List Client}
    (evolves : writing.registry.Evolves later change joining) {added : List Event}
    (effect : ∀ entry, writing.registry.client? client = some entry →
      (change entry).listening = entry.listening ∧
        (change entry).outbox = entry.outbox ++ added ∧ (entry.listening = false → added = [])) :
    { writing with registry := later, queued := writing.queued ++ added }.Faithful client := by
  obtain ⟨entry, found, stage⟩ := faithful.stage
  obtain ⟨listening, outbox, nothing⟩ := effect entry found
  have sound := evolves.sound faithful.sound
  have changed := evolves.client?_of_found faithful.sound found
  cases running : writing.connection.writer.running with
  | true =>
    rw [if_pos running] at stage
    exact .of_works sound faithful.own changed running
      (stage.of_grown added listening outbox rfl rfl rfl)
  | false =>
    rw [if_neg (running ▸ Bool.false_ne_true)] at stage
    have same : writing.queued ++ added = writing.queued := by
      rw [nothing stage.silent, List.append_nil]
    exact .of_over sound faithful.own changed running
      (stage.of_same (listening.trans stage.silent) (evolves.staysOut entry) same rfl rfl)

/-- What happens around the writer and not to the registry keeps the invariant. -/
theorem Faithful.of_same (faithful : writing.Faithful client) (now : Nat) {connection : Connection}
    (own : connection.client = writing.connection.client)
    (writer : connection.writer = writing.connection.writer) :
    { writing with now, connection }.Faithful client := by
  obtain ⟨entry, found, stage⟩ := faithful.stage
  have sameClient := own.trans faithful.own
  cases running : writing.connection.writer.running with
  | true =>
    rw [if_pos running] at stage
    exact .of_works faithful.sound sameClient found (writer ▸ running)
      ⟨stage.listening, stage.unfailed, stage.sent, stage.contents⟩
  | false =>
    rw [if_neg (running ▸ Bool.false_ne_true)] at stage
    exact .of_over faithful.sound sameClient found (writer ▸ running)
      ⟨stage.silent, stage.sent, stage.contents, stage.finished, stage.broken⟩

theorem Faithful.perform (faithful : writing.Faithful client) (turn : Turn) :
    (writing.perform rules client turn).1.Faithful client := by
  cases turn with
  | write =>
    rcases perform_write rules faithful.own with
      same | ⟨running, halts | ⟨errand, later, next, tries⟩⟩
    · rwa [same]
    · rw [halts]
      exact faithful.halt running
    · rw [tries]
      exact faithful.attempt running (.inr next)
  | tick =>
    rw [Writing.perform]
    split
    · rename_i due
      rw [Bool.and_eq_true, Bool.and_eq_true] at due
      exact faithful.attempt due.1.1 (.inl ⟨rfl, rfl⟩)
    · exact faithful
  | stop =>
    rw [Writing.perform]
    split
    · exact faithful.halt ‹_›
    · exact faithful
  | ask request =>
    rw [Writing.perform]
    split
    · exact faithful
    · rename_i other
      refine faithful.of_evolves (faithful.sound.evolves_perform request) fun entry found => ?_
      have own := writing.registry.id_of_found found
      have without : request.usesReceiver entry.id = false := own ▸ Bool.eq_false_iff.mpr other
      rw [admitted, found]
      exact ⟨entry.listening_after_of_other _ without, entry.outbox_after_of_other _ without,
        entry.admitted_of_not_listening _ request⟩
  | pass event id =>
    have evolves := writing.registry.evolves_update id
      (fun other => other.take_id writing.registry.capacity event)
      fun other gone => by rwa [Client.isRegistered, Client.take_standing]
    refine faithful.of_evolves evolves fun entry found => ?_
    have own := writing.registry.id_of_found found
    by_cases here : id = client
    · rw [if_pos here, if_pos (own.trans here.symm), admitted, found]
      exact ⟨entry.take_listening _ event, entry.outbox_take _ event,
        entry.admitted_of_not_listening _ (.fanOut event)⟩
    · rw [if_neg here, if_neg fun same => here (same.symm.trans own)]
      exact ⟨rfl, (List.append_nil _).symm, fun _ => rfl⟩
  | evict slow =>
    have kept : { writing with
        registry := (writing.registry.evict slow).1
        queued := writing.queued ++ [] }.Faithful client :=
      faithful.of_evolves (writing.registry.evolves_evict slow) fun entry _ => by
        split <;> exact ⟨rfl, (List.append_nil _).symm, fun _ => rfl⟩
    rwa [List.append_nil] at kept
  | surround around => exact faithful.of_same writing.now rfl rfl
  | elapse milliseconds => exact faithful.of_same (writing.now + milliseconds) rfl rfl

end Turns

/-! ### Runs -/

variable {rules : StreamRules} {client : Nat} {writing : Writing}

theorem Faithful.run (faithful : writing.Faithful client) (turns : List Turn) :
    (Machine.run (Writing.perform rules client) writing turns).Faithful client :=
  Machine.run_invariant _ (Faithful client) (fun _ turn faithful => faithful.perform turn)
    faithful turns

end Writing

end ServerMonitor
