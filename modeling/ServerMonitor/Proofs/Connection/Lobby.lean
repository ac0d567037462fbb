/-
This file puts any number of connections on one hub. Their parties move in any
order, peers come and do what they like, clients are evicted and the hub may be shut
down at any time. Every connection keeps its own invariant whatever the others do,
because a move alters one client and every client departs for good. So whoever has
returned is registered no more and departed once, by whichever party was first.
-/

import ServerMonitor.Proofs.Connection.Session

namespace ServerMonitor

/-! ### Peers that come -/

namespace Connection

variable (rules : StreamRules) (now : Nat) {registry : Registry} (line : Line) (peer : Peer)

/-- Nothing is registered for a peer that comes to a closed hub, or to one that can make no queue
for it. -/
theorem start_of_refused
    (refused : registry.closed = true ∨ longestQueue < registry.capacity) :
    (start rules now registry line peer).2 = registry ∧
      (start rules now registry line peer).1.client = none ∧
      (Session.of (start rules now registry line peer).1).Sound registry := by
  have unserved (line : Line) : (Session.of (unserved line peer)).Sound registry :=
    ⟨fun _ => ⟨rfl, rfl, rfl⟩, nofun, nofun, fun _ => ⟨.inl rfl, .inl rfl⟩, nofun⟩
  rw [start]
  split
  · exact ⟨rfl, rfl, unserved line⟩
  · rename_i short
    rw [Registry.register, if_pos (refused.resolve_right short)]
    exact ⟨rfl, rfl, unserved _⟩

/-- One client is registered for every other peer, under the next identity. -/
theorem start_of_admitted (sound : registry.Sound) (isOpen : registry.closed = false)
    (short : registry.capacity ≤ longestQueue) :
    let started := start rules now registry line peer
    started.1.client = some registry.nextId ∧
      (∃ newcomer : Client, newcomer.id = registry.nextId ∧ newcomer.isRegistered = true ∧
        started.2 = { registry with
          clients := registry.clients ++ [newcomer]
          nextId := registry.nextId + 1 }) ∧
      (Session.of started.1).Sound started.2 := by
  intro started
  let own := registry.nextId
  let joined (newcomer : Client) : Registry :=
    { registry with clients := registry.clients ++ [newcomer], nextId := own + 1 }
  have granted : registry.register = (joined (.newcomer own), some own) := by
    rw [Registry.register, if_neg (isOpen ▸ Bool.false_ne_true)]
    rfl
  -- The receiver of a writer that breaks down at once is dropped.
  have dropped : (joined (.newcomer own)).dropReceiver own =
      joined { Client.newcomer own with listening := false, outbox := [] } := by
    have others : registry.clients.map (fun client => if client.id = own then
        { client with listening := false, outbox := [] } else client) = registry.clients := by
      refine (List.map_congr_left fun client member => ?_).trans (List.map_id _)
      exact if_neg (sound.id_lt_nextId member).ne
    have clients : (registry.clients ++ [Client.newcomer own]).map (fun client =>
        if client.id = own then { client with listening := false, outbox := [] } else client) =
        registry.clients ++ [{ Client.newcomer own with listening := false, outbox := [] }] := by
      rw [List.map_append, others]
      exact congrArg (fun client => registry.clients ++ [client]) (if_pos rfl)
    exact congrArg (fun clients => { registry with clients, nextId := own + 1 }) clients
  obtain ⟨newcomer, named, registered, added, client, handler⟩ : ∃ newcomer : Client,
      newcomer.id = own ∧ newcomer.isRegistered = true ∧ started.2 = joined newcomer ∧
        started.1.client = some own ∧ started.1.handler = .serving := by
    show ∃ newcomer : Client, _ ∧ _ ∧ (start rules now registry line peer).2 = _ ∧
      (start rules now registry line peer).1.client = _ ∧
      (start rules now registry line peer).1.handler = _
    rw [start, if_neg (Nat.not_lt.mpr short), granted]
    dsimp only
    split
    · exact ⟨.newcomer own, rfl, rfl, rfl, rfl, rfl⟩
    · exact ⟨{ Client.newcomer own with listening := false, outbox := [] }, rfl, rfl, dropped,
        rfl, rfl⟩
  have stays : started.1.hasReturned = false := by rw [hasReturned, handler]; rfl
  refine ⟨client, ⟨newcomer, named, registered, added⟩, ?_⟩
  constructor
  · intro none
    cases client.symm.trans none
  · intro other held
    cases client.symm.trans held
    exact ⟨newcomer, added ▸ List.mem_append_right _ (List.mem_singleton_self newcomer), named⟩
  · intro deadline draining
    cases handler.symm.trans draining
  · rintro (leaves | returned)
    · cases leaves
    · cases stays.symm.trans returned
  · intro returned
    cases stays.symm.trans returned

end Connection

/-- Connections on one registry. -/
structure Lobby where
  rules : StreamRules
  /-- Milliseconds of the timers' clock. -/
  now : Nat
  registry : Registry
  sessions : List Session

namespace Lobby

/-! ### Turns -/

inductive Turn
  /-- A peer comes. -/
  | connect (line : Line) (peer : Peer)
  /-- A party of a connection makes a move. -/
  | move (index : Nat) (move : Session.Move)
  /-- The peer of a connection does something, and so may the line to it. -/
  | surround (index : Nat) (inbound : List Frame) (line : Line) (peer : Peer)
  /-- Something is asked of the registry, by the hub or by anyone else. -/
  | ask (request : Registry.Request)
  /-- A fan-out passes one client. -/
  | pass (event : Event) (id : Nat)
  /-- A fan-out removes clients that it found slow, whichever they are. -/
  | evict (slow : List Nat)
  | elapse (milliseconds : Nat)

def perform : Machine Lobby Turn Unit
  | lobby, .connect line peer =>
    let (connection, registry) :=
      Connection.start lobby.rules lobby.now lobby.registry line peer
    ({ lobby with registry, sessions := lobby.sessions ++ [.of connection] }, ())
  | lobby, .move index move =>
    match lobby.sessions[index]?.bind fun session =>
        session.connection.client.map fun client =>
          session.move lobby.rules lobby.now client lobby.registry move with
    | some (session, registry) =>
      ({ lobby with registry, sessions := lobby.sessions.set index session }, ())
    | none => (lobby, ())
  | lobby, .surround index inbound line peer =>
    match lobby.sessions[index]? with
    | some session =>
      let connection := { session.connection with inbound, line, peer }
      ({ lobby with sessions := lobby.sessions.set index { session with connection } }, ())
    | none => (lobby, ())
  | lobby, .ask request =>
    ({ lobby with registry := (lobby.registry.perform request).1 }, ())
  | lobby, .pass event id =>
    ({ lobby with
      registry := lobby.registry.update id (·.take lobby.registry.capacity event) }, ())
  | lobby, .evict slow => ({ lobby with registry := (lobby.registry.evict slow).1 }, ())
  | lobby, .elapse milliseconds => ({ lobby with now := lobby.now + milliseconds }, ())

/-- The clients of the connections. -/
def clients (lobby : Lobby) : List Nat := lobby.sessions.filterMap (·.connection.client)

/-! ### What a turn does -/

variable {lobby : Lobby}

/-- A peer comes: to a closed hub as nobody, to an open one as its next client. -/
theorem perform_connect (sound : lobby.registry.Sound) (line : Line) (peer : Peer) :
    ∃ session : Session, (lobby.perform (.connect line peer)).1.sessions =
        lobby.sessions ++ [session] ∧
      session.Sound (lobby.perform (.connect line peer)).1.registry ∧
      if lobby.registry.closed = true ∨ longestQueue < lobby.registry.capacity then
        session.connection.client = none ∧
          (lobby.perform (.connect line peer)).1.registry = lobby.registry
      else
        session.connection.client = some lobby.registry.nextId ∧
          ∃ newcomer : Client, newcomer.id = lobby.registry.nextId ∧
            newcomer.isRegistered = true ∧
            (lobby.perform (.connect line peer)).1.registry = { lobby.registry with
              clients := lobby.registry.clients ++ [newcomer]
              nextId := lobby.registry.nextId + 1 } := by
  refine ⟨_, rfl, ?_⟩
  show (Session.of (Connection.start _ _ _ _ _).1).Sound (Connection.start _ _ _ _ _).2 ∧ _
  split
  · rename_i refused
    obtain ⟨same, client, orderly⟩ :=
      Connection.start_of_refused lobby.rules lobby.now line peer refused
    refine ⟨?_, client, same⟩
    rw [same]
    exact orderly
  · rename_i admitted
    obtain ⟨isOpen, short⟩ := not_or.mp admitted
    obtain ⟨client, added, orderly⟩ := Connection.start_of_admitted lobby.rules lobby.now line peer
      sound (Bool.eq_false_iff.mpr isOpen) (Nat.not_lt.mp short)
    exact ⟨orderly, client, added⟩

/-- A move is made by a connection that is there and has a client, or nothing happens. -/
theorem perform_move (lobby : Lobby) (index : Nat) (move : Session.Move) :
    (lobby.perform (.move index move)).1 = lobby ∨
    ∃ session client, lobby.sessions[index]? = some session ∧
      session.connection.client = some client ∧
      (lobby.perform (.move index move)).1 = { lobby with
        registry := (session.move lobby.rules lobby.now client lobby.registry move).2
        sessions := lobby.sessions.set index
          (session.move lobby.rules lobby.now client lobby.registry move).1 } := by
  rw [perform]
  cases found : lobby.sessions[index]? with
  | none => exact .inl rfl
  | some session =>
    cases own : session.connection.client with
    | none =>
      refine .inl ?_
      rw [Option.bind_some, own]
      rfl
    | some client =>
      refine .inr ⟨session, client, rfl, own, ?_⟩
      rw [Option.bind_some, own]
      rfl

/-- What a turn does to the registry is done to each client by itself. -/
theorem evolves_perform (sound : lobby.registry.Sound) (turn : Turn) :
    ∃ change joining,
      lobby.registry.Evolves (lobby.perform turn).1.registry change joining := by
  cases turn with
  | connect line peer =>
    obtain ⟨session, -, -, result⟩ := perform_connect sound line peer
    split at result
    · rw [result.2]
      exact ⟨_, _, .refl _⟩
    · obtain ⟨-, newcomer, named, registered, added⟩ := result
      rw [added]
      refine ⟨id, [newcomer], fun _ => rfl, fun _ gone => gone, ?_, ?_, ?_, rfl⟩
      · rw [List.map_singleton, named]
        rfl
      · exact List.forall_mem_singleton.mpr registered
      · rw [List.map_id]
  | move index move =>
    rcases lobby.perform_move index move with same | ⟨session, client, -, own, moved⟩
    · rw [same]
      exact ⟨_, _, .refl _⟩
    · rw [moved]
      obtain ⟨change, evolves⟩ :=
        (Session.alters_move lobby.rules lobby.now own lobby.registry move).evolves
      exact ⟨_, _, evolves⟩
  | ask request => exact ⟨_, _, sound.evolves_perform request⟩
  | pass event id =>
    refine ⟨_, _, lobby.registry.evolves_update id ?_ fun client gone => ?_⟩
    · exact fun client => client.take_id _ event
    · rwa [Client.isRegistered, Client.take_standing]
  | evict slow => exact ⟨_, _, lobby.registry.evolves_evict slow⟩
  | surround index inbound line peer =>
    rw [perform]
    split <;> exact ⟨_, _, .refl _⟩
  | elapse => exact ⟨_, _, .refl _⟩

/-! ### The invariant -/

/-- What holds of the connections and the registry in every run. -/
structure Sound (lobby : Lobby) : Prop where
  registry : lobby.registry.Sound
  sessions : ∀ session ∈ lobby.sessions, session.Sound lobby.registry
  /-- No client belongs to two connections. -/
  clients : lobby.clients.Nodup

theorem Sound.lt_of_mem_clients (sound : lobby.Sound) {client : Nat}
    (member : client ∈ lobby.clients) : client < lobby.registry.nextId := by
  obtain ⟨session, present, own⟩ := List.mem_filterMap.mp member
  obtain ⟨known, listed, rfl⟩ := (sound.sessions session present).known client own
  exact sound.registry.id_lt_nextId listed

/-- A connection may change, and the registry with it, as long as its client stays the same. -/
theorem Sound.set (sound : lobby.Sound) {registry : Registry} {change : Client → Client}
    {joining : List Client} (evolves : lobby.registry.Evolves registry change joining)
    {index : Nat} {session moved : Session} (found : lobby.sessions[index]? = some session)
    (same : moved.connection.client = session.connection.client) (orderly : moved.Sound registry) :
    Sound { lobby with registry, sessions := lobby.sessions.set index moved } where
  registry := evolves.sound sound.registry
  sessions other member := by
    rcases List.mem_or_eq_of_mem_set member with before | rfl
    · exact (sound.sessions other before).congr sound.registry evolves
    · exact orderly
  clients := by
    have clients : (lobby.sessions.set index moved).map (·.connection.client) =
        lobby.sessions.map (·.connection.client) := by
      refine List.ext_getElem? fun position => ?_
      rw [List.map_set, same, List.getElem?_set]
      split
      · rename_i here
        subst here
        rw [List.getElem?_map, found]
        split
        · rfl
        · rename_i outside
          rw [List.length_map] at outside
          exact absurd (List.getElem?_eq_some_iff.mp found).1 outside
      · rfl
    have unchanged : (lobby.sessions.set index moved).filterMap (·.connection.client) =
        lobby.clients := by
      have := congrArg (List.filterMap id) clients
      rwa [List.filterMap_map, List.filterMap_map] at this
    exact (congrArg List.Nodup unchanged).mpr sound.clients

theorem Sound.perform (sound : lobby.Sound) (turn : Turn) : (lobby.perform turn).1.Sound := by
  obtain ⟨change, joining, evolves⟩ := evolves_perform sound.registry turn
  have others : ∀ session ∈ lobby.sessions, session.Sound (lobby.perform turn).1.registry :=
    fun session member => (sound.sessions session member).congr sound.registry evolves
  have registry := evolves.sound sound.registry
  cases turn with
  | connect line peer =>
    obtain ⟨session, added, orderly, result⟩ := perform_connect sound.registry line peer
    refine ⟨registry, ?_, ?_⟩
    · rw [added]
      exact List.forall_mem_append.mpr ⟨others, List.forall_mem_singleton.mpr orderly⟩
    · rw [Lobby.clients, added, List.filterMap_append]
      split at result
      · have nobody : [session].filterMap (·.connection.client) = [] :=
          List.filterMap_cons_none result.1
        rw [nobody, List.append_nil]
        exact sound.clients
      · have one : [session].filterMap (·.connection.client) = [lobby.registry.nextId] :=
          List.filterMap_cons_some result.1
        rw [one]
        refine List.nodup_append.mpr ⟨sound.clients, List.nodup_singleton _, ?_⟩
        intro client member other new
        rw [List.mem_singleton.mp new]
        exact (sound.lt_of_mem_clients member).ne
  | move index move =>
    rcases lobby.perform_move index move with same | ⟨session, client, found, own, moved⟩
    · rwa [same]
    · rw [moved] at evolves ⊢
      exact sound.set evolves found (Session.client_move _ _ _ session lobby.registry move)
        ((sound.sessions session (List.mem_of_getElem? found)).move sound.registry own move)
  | surround index inbound line peer =>
    rw [Lobby.perform]
    cases found : lobby.sessions[index]? with
    | none => exact sound
    | some session =>
      have orderly := sound.sessions session (List.mem_of_getElem? found)
      exact sound.set (.refl _) found rfl
        ⟨orderly.unserved, orderly.known, orderly.drained, orderly.released, orderly.gone⟩
  | ask | pass | evict | elapse => exact ⟨registry, others, sound.clients⟩

/-! ### Runs -/

variable (rules : StreamRules) (capacity now : Nat) (turns : List Turn)

/-- A hub that was just opened, with room for so many events for each client. -/
def opened : Lobby := ⟨rules, now, .withCapacity capacity, []⟩

/-- The connections and the registry after these turns. -/
def after : Lobby := Machine.run perform (opened rules capacity now) turns

/-- The clients that departed, one after the other. -/
def departures : List Nat :=
  Machine.log perform (fun lobby turn => lobby.registry.departed (lobby.perform turn).1.registry)
    (opened rules capacity now) turns

theorem sound_after : (after rules capacity now turns).Sound := by
  have start : (opened rules capacity now).Sound :=
    ⟨.withCapacity capacity, List.forall_mem_nil _, List.nodup_nil⟩
  exact Machine.run_invariant perform Sound (fun _ turn sound => sound.perform turn) start turns

/-- Only who has come departs, and exactly who is not registered has departed once. -/
theorem count_departures :
    let registry := (after rules capacity now turns).registry
    departures rules capacity now turns ⊆ registry.clients.map (·.id) ∧
      ∀ client ∈ registry.clients, (departures rules capacity now turns).count client.id =
        if client.isRegistered then 0 else 1 := by
  induction turns using List.reverseRecOn with
  | nil => exact ⟨List.nil_subset _, List.forall_mem_nil _⟩
  | append_singleton past turn inductionHypothesis =>
    intro registry
    obtain ⟨known, once⟩ := inductionHypothesis
    let lobby := after rules capacity now past
    have sound : lobby.registry.Sound := (sound_after rules capacity now past).registry
    have result : registry = (lobby.perform turn).1.registry :=
      congrArg Lobby.registry (Machine.run_concat perform _ past turn)
    obtain ⟨change, joining, evolves⟩ := evolves_perform sound turn
    rw [← result] at evolves
    have more : departures rules capacity now (past ++ [turn]) =
        departures rules capacity now past ++ lobby.registry.departed registry := by
      rw [result]
      exact Machine.log_concat perform _ _ past turn
    have knownBefore : departures rules capacity now (past ++ [turn]) ⊆
        lobby.registry.clients.map (·.id) :=
      more ▸ List.append_subset.mpr ⟨known, lobby.registry.departed_subset registry⟩
    refine ⟨fun id departs => ?_, fun client member => ?_⟩
    · rw [evolves.map_id_clients]
      exact List.mem_append_left _ (knownBefore departs)
    rcases List.mem_append.mp (evolves.clients ▸ member) with old | new
    · obtain ⟨before, present, rfl⟩ := List.mem_map.mp old
      rw [evolves.sameId, more, List.count_append, once before present,
        evolves.count_departed sound present]
      cases stood : before.isRegistered with
      | true => cases (change before).isRegistered <;> rfl
      | false => rw [evolves.staysOut before stood]; rfl
    · -- Nobody departs before it has come.
      have fresh : lobby.registry.nextId ≤ client.id := by
        have numbered : client.id ∈ List.range' _ joining.length :=
          evolves.numbered ▸ List.mem_map_of_mem new
        exact (List.mem_range'_1.mp numbered).1
      rw [evolves.registered client new, if_pos rfl]
      refine List.count_eq_zero_of_not_mem fun departs => ?_
      obtain ⟨other, present, same⟩ := List.mem_map.mp (knownBefore departs)
      exact absurd (same ▸ sound.id_lt_nextId present) (Nat.not_lt.mpr fresh)

theorem count_departures_le_one (id : Nat) :
    (departures rules capacity now turns).count id ≤ 1 := by
  obtain ⟨known, once⟩ := count_departures rules capacity now turns
  by_cases departs : id ∈ departures rules capacity now turns
  · obtain ⟨client, member, rfl⟩ := List.mem_map.mp (known departs)
    rw [once client member]
    split
    · exact Nat.zero_le 1
    · exact Nat.le_refl 1
  · rw [List.count_eq_zero_of_not_mem departs]
    exact Nat.zero_le 1

/-- Whatever connections do on a hub, and whatever else happens there, they leave it clean. An
open hub registers one client for a connection, a closed one none. When a connection has returned,
its reader and its writer have ended or were told to, and its client departed once and for all.
What a connection does concerns no client but its own. -/
theorem connections_leave_clean_registry (rules : StreamRules) (capacity now : Nat)
    (turns : List Turn) :
    let lobby := after rules capacity now turns
    let departures := departures rules capacity now turns
    (∀ line peer, ∃ session : Session,
      let later := (lobby.perform (.connect line peer)).1
      later.sessions = lobby.sessions ++ [session] ∧
        if lobby.registry.closed = true ∨ longestQueue < lobby.registry.capacity then
          session.connection.client = none ∧ later.registry = lobby.registry
        else
          session.connection.client = some lobby.registry.nextId ∧
            ∃ newcomer : Client, newcomer.id = lobby.registry.nextId ∧
              newcomer.isRegistered = true ∧ later.registry = { lobby.registry with
                clients := lobby.registry.clients ++ [newcomer]
                nextId := lobby.registry.nextId + 1 }) ∧
    (∀ session ∈ lobby.sessions, session.connection.hasReturned = true →
      (session.readerEnded = true ∨ session.readerCut = true) ∧
      (session.writerEnded = true ∨ session.writerCut = true) ∧
      ∀ client, session.connection.client = some client →
        lobby.registry.contains client = false ∧ departures.count client = 1) ∧
    (∀ id, departures.count id ≤ 1) ∧
    lobby.clients.Nodup ∧
    ∀ index move, let registry := (lobby.perform (.move index move)).1.registry
      registry.clients.map (·.id) = lobby.registry.clients.map (·.id) ∧
        ∀ other, lobby.sessions[index]?.bind (·.connection.client) ≠ some other →
          registry.client? other = lobby.registry.client? other := by
  intro lobby departures
  have sound : lobby.Sound := sound_after rules capacity now turns
  refine ⟨fun line peer => ?_, fun session member returned => ?_,
    count_departures_le_one rules capacity now turns, sound.clients, fun index move => ?_⟩
  · obtain ⟨session, added, -, result⟩ := perform_connect sound.registry line peer
    exact ⟨session, added, result⟩
  · have orderly := sound.sessions session member
    obtain ⟨reader, writer⟩ := orderly.released (.inr returned)
    refine ⟨reader, writer, fun client own => ?_⟩
    have gone := orderly.gone returned client own
    obtain ⟨known, listed, rfl⟩ := orderly.known client own
    have left := (sound.registry.contains_of_mem listed).symm.trans gone
    refine ⟨gone, ((count_departures rules capacity now turns).2 known listed).trans ?_⟩
    rw [left]
    rfl
  · rcases lobby.perform_move index move with same | ⟨session, client, found, own, moved⟩
    · rw [same]
      exact ⟨rfl, fun _ _ => rfl⟩
    · have alters := Session.alters_move lobby.rules lobby.now own lobby.registry move
      rw [moved]
      refine ⟨alters.map_id_clients, fun other different => alters.client?_of_ne fun same => ?_⟩
      rw [found, Option.bind_some, own, same] at different
      exact different rfl

/-- The first of two clients says goodbye and is evicted meanwhile, the hub closes, and a third
peer comes too late. -/
theorem goodbye_leaves_clean_registry :
    let come : Turn := .connect (.empty 64) (.arrive true)
    let turns : List Turn := [come, come, .move 0 (.read (.frame .close) []), .evict [1],
      .move 0 .readerEnds, .move 0 .drain, .ask .shutdown, .move 0 .write, .move 0 .leave,
      .move 0 .conclude, come]
    let lobby := after ⟨4, 4, 1000, 2000, 500⟩ 4 0 turns
    lobby.sessions.map (fun session => (session.connection.client,
        session.connection.hasReturned)) = [(some 1, true), (some 2, false), (none, true)] ∧
      lobby.registry.contains 1 = false ∧
      (departures ⟨4, 4, 1000, 2000, 500⟩ 4 0 turns).count 1 = 1 := by
  intro come turns lobby
  have sessions : lobby.sessions.map (fun session => (session.connection.client,
      session.connection.hasReturned)) = [(some 1, true), (some 2, false), (none, true)] := by
    decide +kernel
  obtain ⟨session, member, same⟩ := List.mem_map.mp (sessions.symm ▸ List.mem_cons_self)
  obtain ⟨own, returned⟩ := Prod.mk.inj same
  have left := (connections_leave_clean_registry ⟨4, 4, 1000, 2000, 500⟩ 4 0 turns).2.1
  exact ⟨sessions, (left session member returned).2.2 1 own⟩

end Lobby

end ServerMonitor
