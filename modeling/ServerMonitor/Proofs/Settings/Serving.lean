/-
This file states which accepted settings an agent can run with. What is refused
at the start keeps every queue from being empty and the pings before the deadline
of the reader. It does not keep queues below the longest that can be made, pings
apart from each other, or deadlines within the reach of the clock, and these are
all that is missing: settings that meet them as well start an agent that can
serve every client.
-/

import ServerMonitor.Agent.Start
import ServerMonitor.Settings.File

namespace ServerMonitor

/-! ### Accepted settings -/

namespace Settings

/-- What settings meet that are accepted. -/
structure Accepted (settings : Settings) : Prop where
  busBuffer : settings.busBuffer ≠ 0
  clientBuffer : settings.stream.clientBuffer ≠ 0
  broadcastBuffer : settings.stream.broadcastBuffer ≠ 0
  pingInterval : settings.stream.pingInterval < settings.stream.readTimeout
  intervals : ∀ entry ∈ settings.intervals.entries,
    entry.2 = 0 ∨ Collector.isAllowedInterval entry.2 = true

theorem violation?_eq_none_iff (settings : Settings) :
    settings.violation? = none ↔ settings.Accepted := by
  have allowed : (settings.intervals.entries.find? fun entry =>
      entry.2 ≠ 0 && !Collector.isAllowedInterval entry.2) = none ↔
      ∀ entry ∈ settings.intervals.entries,
        entry.2 = 0 ∨ Collector.isAllowedInterval entry.2 = true := by
    rw [List.find?_eq_none]
    refine forall₂_congr fun entry _ => ?_
    by_cases zero : entry.2 = 0 <;> simp [zero]
  rw [violation?]
  constructor
  · intro valid
    split at valid
    · cases valid
    split at valid
    · cases valid
    split at valid
    · cases valid
    obtain ⟨clientBuffer, broadcastBuffer⟩ := not_or.mp ‹_›
    exact ⟨‹_›, clientBuffer, broadcastBuffer, UInt64.not_le.mp ‹_›,
      allowed.mp (Option.map_eq_none_iff.mp valid)⟩
  · intro accepted
    rw [if_neg accepted.busBuffer,
      if_neg (not_or.mpr ⟨accepted.clientBuffer, accepted.broadcastBuffer⟩),
      if_neg (UInt64.not_le.mpr accepted.pingInterval)]
    exact Option.map_eq_none_iff.mpr (allowed.mpr accepted.intervals)

theorem accepted_of_ofText {environment : Environment} {text : String} {settings : Settings}
    (read : ofText environment text = .ok settings) : settings.Accepted := by
  rw [ofText] at read
  split at read
  · cases read
  · split at read
    · cases read
    · cases read
      exact (violation?_eq_none_iff _).mp ‹_›

/-- What accepted settings need not meet. -/
structure WithinReach (settings : Settings) (now : Nat) : Prop where
  busBuffer : settings.busBuffer.toNat ≤ longestQueue
  clientBuffer : settings.stream.clientBuffer.toNat ≤ longestQueue
  broadcastBuffer : settings.stream.broadcastBuffer.toNat ≤ longestQueue
  pingInterval : settings.stream.pingInterval ≠ 0
  readTimeout : now + settings.stream.readTimeout.toNat * 1000 ≤ lastInstant

theorem pingInterval_ne_zero_iff (settings : Settings) :
    settings.stream.rules.pingInterval ≠ 0 ↔ settings.stream.pingInterval ≠ 0 := by
  refine not_congr ?_
  rw [← UInt64.toNat_inj]
  show settings.stream.pingInterval.toNat * 1000 = 0 ↔ settings.stream.pingInterval.toNat = 0
  omega

/-- The first ping is due before the first pong. -/
theorem Accepted.firstPing_le {settings : Settings} (accepted : settings.Accepted) (now : Nat) :
    now + settings.stream.rules.pingInterval ≤ now + settings.stream.rules.readTimeout := by
  have earlier := UInt64.lt_iff_toNat_lt.mp accepted.pingInterval
  show now + settings.stream.pingInterval.toNat * 1000 ≤
    now + settings.stream.readTimeout.toNat * 1000
  omega

end Settings

/-! ### The agent that is started -/

namespace Agent

/-- Whether everything can be made that the agent makes for itself, and at a time for a client: its
queues, the timer of the pings, and the deadlines of the first ping and of the next pong. -/
structure Serviceable (agent : Agent) (now : Nat) : Prop where
  busQueue : 1 ≤ agent.bus.capacity ∧ agent.bus.capacity ≤ longestQueue
  hubQueue : 1 ≤ agent.hub.capacity ∧ agent.hub.capacity ≤ longestQueue
  clientQueue : 1 ≤ agent.hub.registry.capacity ∧ agent.hub.registry.capacity ≤ longestQueue
  pingPeriod : agent.rules.pingInterval ≠ 0
  firstPing : now + agent.rules.pingInterval ≤ lastInstant
  nextPong : now + agent.rules.readTimeout ≤ lastInstant

/-- To register collectors changes nothing but the roster. -/
theorem registerBy_foldl_frame (settings : Settings) (agent : Agent)
    (collectors : List (String × Collector.Plan)) :
    ∃ roster, collectors.foldl
      (fun agent collector => registerBy settings agent collector.1 collector.2 false) agent =
        { agent with roster } := by
  induction collectors generalizing agent with
  | nil => exact ⟨agent.roster, rfl⟩
  | cons collector rest inductionHypothesis =>
    obtain ⟨roster, same⟩ :=
      inductionHypothesis (registerBy settings agent collector.1 collector.2 false)
    exact ⟨roster, same⟩

/-- An agent is started with the capacities and rules of its settings. -/
theorem start_frame (settings : Settings) (cache : Cache) (clock : Clock)
    (measured : Option HostInfo) (collectors : List (String × Collector.Plan)) :
    (start settings cache clock measured collectors).bus.capacity =
        max settings.busBuffer.toNat 1 ∧
      (start settings cache clock measured collectors).hub =
        .start settings.stream.clientBuffer.toNat settings.stream.broadcastBuffer.toNat ∧
      (start settings cache clock measured collectors).rules = settings.stream.rules := by
  let assembled := (assemble settings.busBuffer.toNat settings.stream.rules settings.crossOrigin
    cache clock).subscribe
  obtain ⟨builtIn, first⟩ : ∃ roster, (measured.elim assembled fun measured =>
      registerBy settings assembled hostCollector (hostPlan measured) true) =
        { assembled with roster } := by
    cases measured <;> exact ⟨_, rfl⟩
  obtain ⟨registered, rest⟩ :=
    registerBy_foldl_frame settings { assembled with roster := builtIn } collectors
  have started : start settings cache clock measured collectors =
      (startCollectors { assembled with roster := registered }).1 := by
    rw [← rest, ← first]
    rfl
  rw [started]
  exact ⟨rfl, rfl, rfl⟩

/-- Whether every client that comes at a time is served: its handler does not break down, neither
do the two tasks for it, and a pong that comes then does not break the reader down either. -/
def ServesClients (agent : Agent) (now : Nat) : Prop :=
  ∀ (registry : Registry) (line : Line) (peer : Peer), registry.closed = false →
    registry.capacity = agent.hub.registry.capacity →
    let connection := (Connection.start agent.rules now registry line peer).1
    connection.client.isSome = true ∧ connection.writer.running = true ∧
      connection.reader.running = true ∧ ∀ content,
        (connection.reader.accept agent.rules.readTimeout now (.frame (.pong content))).running =
          true

end Agent

/-! ### A client that comes -/

/-- The handler of a client breaks down if no queue can be made for the client, the writer if no
timer can be made for the pings, and the reader if its deadline cannot be represented. -/
theorem Connection.start_serves_iff (rules : StreamRules) (now : Nat) {registry : Registry}
    (isOpen : registry.closed = false) (line : Line) (peer : Peer) :
    ((start rules now registry line peer).1.client.isSome = true ∧
        (start rules now registry line peer).1.writer.running = true ∧
        (start rules now registry line peer).1.reader.running = true) ↔
      registry.capacity ≤ longestQueue ∧
        (rules.pingInterval ≠ 0 ∧ now + rules.pingInterval ≤ lastInstant) ∧
        now + rules.readTimeout ≤ lastInstant := by
  rw [start]
  by_cases tooLong : longestQueue < registry.capacity
  · rw [if_pos tooLong]
    exact iff_of_false (fun served => nomatch served.1) fun met => Nat.not_lt.mpr met.1 tooLong
  · rw [if_neg tooLong, Registry.register, if_neg (isOpen ▸ Bool.false_ne_true)]
    refine and_congr (iff_of_true rfl (Nat.not_lt.mp tooLong)) (and_congr ?_ ?_)
    · show (decide _ && decide _) = true ↔ _
      rw [Bool.and_eq_true, decide_eq_true_eq, decide_eq_true_eq]
    · exact decide_eq_true_iff

/-! ### What is missing -/

section

variable {settings : Settings} (cache : Cache) (clock : Clock) (measured : Option HostInfo)
  (collectors : List (String × Collector.Plan)) (now : Nat)

theorem Agent.serviceable_iff (accepted : settings.Accepted) :
    (Agent.start settings cache clock measured collectors).Serviceable now ↔
      settings.WithinReach now := by
  obtain ⟨bus, hub, rules⟩ := Agent.start_frame settings cache clock measured collectors
  have inRange (capacity : Nat) : 1 ≤ max capacity 1 ∧ max capacity 1 ≤ longestQueue ↔
      capacity ≤ longestQueue := by
    have room : 1 ≤ longestQueue := by decide
    omega
  constructor
  · rintro ⟨busQueue, hubQueue, clientQueue, pingPeriod, -, nextPong⟩
    rw [bus] at busQueue
    rw [hub] at hubQueue clientQueue
    rw [rules] at pingPeriod nextPong
    exact ⟨(inRange _).mp busQueue, (inRange _).mp clientQueue, (inRange _).mp hubQueue,
      settings.pingInterval_ne_zero_iff.mp pingPeriod, nextPong⟩
  · rintro ⟨busBuffer, clientBuffer, broadcastBuffer, pingInterval, readTimeout⟩
    constructor
    · rw [bus]
      exact (inRange _).mpr busBuffer
    · rw [hub]
      exact (inRange _).mpr broadcastBuffer
    · rw [hub]
      exact (inRange _).mpr clientBuffer
    · rw [rules]
      exact settings.pingInterval_ne_zero_iff.mpr pingInterval
    · rw [rules]
      exact Nat.le_trans (accepted.firstPing_le now) readTimeout
    · rw [rules]
      exact readTimeout

/-- The agent is started and serves every client if its settings are within reach, and only then. -/
theorem Agent.canStart_and_servesClients_iff (accepted : settings.Accepted) :
    settings.canStart = true ∧
        (Agent.start settings cache clock measured collectors).ServesClients now ↔
      settings.WithinReach now := by
  obtain ⟨-, hub, rules⟩ := Agent.start_frame settings cache clock measured collectors
  rw [Settings.canStart, Settings.canStartHub, Bool.and_eq_true, decide_eq_true_eq,
    decide_eq_true_eq, Agent.ServesClients, hub, rules]
  constructor
  · rintro ⟨⟨busBuffer, broadcastBuffer⟩, served⟩
    let registry := Registry.withCapacity settings.stream.clientBuffer.toNat
    -- One client that comes to a new registry is enough to find out.
    obtain ⟨client, writer, reader, -⟩ := served registry (.empty 0) (.arrive true) rfl rfl
    obtain ⟨clientQueue, ⟨pingPeriod, -⟩, nextPong⟩ :=
      (Connection.start_serves_iff _ now rfl _ _).mp ⟨client, writer, reader⟩
    exact ⟨busBuffer, Nat.le_trans (Nat.le_max_left _ _) clientQueue, broadcastBuffer,
      settings.pingInterval_ne_zero_iff.mp pingPeriod, nextPong⟩
  · rintro ⟨busBuffer, clientBuffer, broadcastBuffer, pingInterval, readTimeout⟩
    refine ⟨⟨busBuffer, broadcastBuffer⟩, fun registry line peer isOpen capacity => ?_⟩
    have clientQueue : registry.capacity ≤ longestQueue :=
      capacity ▸ Nat.max_le.mpr ⟨clientBuffer, by decide⟩
    have pings := And.intro (settings.pingInterval_ne_zero_iff.mpr pingInterval)
      (Nat.le_trans (accepted.firstPing_le now) readTimeout)
    obtain ⟨client, writer, reader⟩ :=
      (Connection.start_serves_iff _ now isOpen line peer).mpr ⟨clientQueue, pings, readTimeout⟩
    exact ⟨client, writer, reader, fun _ => decide_eq_true readTimeout⟩

end

/-- Accepted settings start an agent that can make everything it has to make if and only if they are
within reach as well; such an agent is started and serves every client, and no other does. -/
theorem Settings.serviceable_of_accepted_iff {environment : Environment} {text : String}
    {settings : Settings} (read : Settings.ofText environment text = .ok settings) (cache : Cache)
    (clock : Clock) (measured : Option HostInfo) (collectors : List (String × Collector.Plan))
    (now : Nat) :
    let agent := Agent.start settings cache clock measured collectors
    (agent.Serviceable now ↔ settings.WithinReach now) ∧
      (agent.Serviceable now ↔ settings.canStart = true ∧ agent.ServesClients now) := by
  have accepted := Settings.accepted_of_ofText read
  have reach := Agent.serviceable_iff cache clock measured collectors now accepted
  have serves := Agent.canStart_and_servesClients_iff cache clock measured collectors now accepted
  exact ⟨reach, reach.trans serves.symm⟩

/-- An environment that sets neither address nor port. -/
def silentEnvironment : Environment := ⟨none, none, none⟩

/-- The settings that a text holds which sets nothing are within reach. -/
theorem serviceable_of_empty_text :
    ∃ settings, Settings.ofText silentEnvironment "\x7b\x7d" = .ok settings ∧
      (Agent.start settings .empty ⟨.epoch, 0⟩ none []).Serviceable 0 := by
  have read : Settings.ofText silentEnvironment "\x7b\x7d" = .ok (.default silentEnvironment) := by
    rfl
  refine ⟨_, read, ?_⟩
  obtain ⟨reach, -⟩ := Settings.serviceable_of_accepted_iff read .empty ⟨.epoch, 0⟩ none [] 0
  exact reach.mpr ⟨by decide, by decide, by decide, by decide, by decide⟩

/-- Whether the settings that a text holds are accepted although no agent can run with them. -/
def IsAcceptedInVain (text : String) : Prop :=
  ∃ settings, Settings.ofText silentEnvironment text = .ok settings ∧
    ¬(Agent.start settings .empty ⟨.epoch, 0⟩ none []).Serviceable 0

theorem isAcceptedInVain {text : String} (settings : Settings)
    (read : Settings.ofText silentEnvironment text = .ok settings)
    (far : ¬settings.WithinReach 0) : IsAcceptedInVain text :=
  ⟨settings, read, fun serviceable => far <|
    (Agent.serviceable_iff _ _ _ _ 0 (Settings.accepted_of_ofText read)).mp serviceable⟩

/-- A queue too long for the bus, for a client or for the hub is accepted, and so are pings without
a pause and a deadline beyond the reach of the clock. -/
theorem accepted_and_not_serviceable :
    IsAcceptedInVain "\x7b\"bus_buffer\":18446744073709551615\x7d" ∧
    IsAcceptedInVain "\x7b\"websocket\":\x7b\"client_buffer\":18446744073709551615\x7d\x7d" ∧
    IsAcceptedInVain "\x7b\"websocket\":\x7b\"broadcast_buffer\":18446744073709551615\x7d\x7d" ∧
    IsAcceptedInVain "\x7b\"websocket\":\x7b\"ping_interval_secs\":0\x7d\x7d" ∧
    IsAcceptedInVain
      "\x7b\"websocket\":\x7b\"read_timeout_secs\":18446744073709551615\x7d\x7d" := by
  let usual := Settings.default silentEnvironment
  let busBuffer : Settings := { usual with busBuffer := 18446744073709551615 }
  let stream (stream : StreamSettings) : Settings := { usual with stream }
  refine ⟨?_, ?_, ?_, ?_, ?_⟩
  · exact isAcceptedInVain busBuffer rfl fun reach => absurd reach.busBuffer (by decide)
  · exact isAcceptedInVain (stream { clientBuffer := 18446744073709551615 }) rfl fun reach =>
      absurd reach.clientBuffer (by decide)
  · exact isAcceptedInVain (stream { broadcastBuffer := 18446744073709551615 }) rfl fun reach =>
      absurd reach.broadcastBuffer (by decide)
  · exact isAcceptedInVain (stream { pingInterval := 0 }) rfl fun reach =>
      absurd reach.pingInterval (by decide)
  · exact isAcceptedInVain (stream { readTimeout := 18446744073709551615 }) rfl fun reach =>
      absurd reach.readTimeout (by decide)

end ServerMonitor
