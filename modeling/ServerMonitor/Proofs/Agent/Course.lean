/-
This file lets a whole agent run: its collectors, its loops, its hub and its
connections take steps in any order, while everybody asks for what they like. Tasks
that were told to stop may go on for a while. Whatever a turn does to the bus and to
the registry is what they were asked for, so the agent keeps what these keep.
-/

import ServerMonitor.Proofs.Agent.Audience
import ServerMonitor.Proofs.Agent.Operation
import ServerMonitor.Proofs.Collector.Ending
import ServerMonitor.Proofs.Connection.Ending
import ServerMonitor.Proofs.Hub.Balance

namespace ServerMonitor

open Collector

/-! ### Peers that come -/

/-- Whatever comes of a peer, the hub is asked at most to register a client and to drop its
receiver, and who is not served is over. -/
theorem Connection.exists_run_start (rules : StreamRules) (now : Nat) (registry : Registry)
    (line : Line) (peer : Peer) :
    ∃ requests : List Registry.Request, (∀ request ∈ requests, request.isFromHub = false) ∧
      (start rules now registry line peer).2 = Machine.run Registry.perform registry requests ∧
      (start rules now registry line peer).1.Settled := by
  have unserved (line : Line) : (unserved line peer).Settled :=
    ⟨fun _ => rfl, fun _ => rfl, fun _ => rfl⟩
  rw [start]
  split
  · exact ⟨[], List.forall_mem_nil _, rfl, unserved line⟩
  · cases granted : registry.register with
    | mk registered client =>
      have asked : registered = (registry.perform .register).1 := (congrArg Prod.fst granted).symm
      cases client with
      | none => exact ⟨[.register], List.forall_mem_singleton.mpr rfl, asked, unserved _⟩
      | some client =>
        have settled (writer : Writer) : Connection.Settled ⟨some client,
            Reader.start rules.readTimeout now, writer, .serving, [], line, false, peer⟩ :=
          ⟨fun none => (by cases none), fun returned => (by cases returned),
            fun returned => (by cases returned)⟩
        dsimp only
        split
        · exact ⟨[.register], List.forall_mem_singleton.mpr rfl, asked, settled _⟩
        · refine ⟨[.register, .dropReceiver client], List.forall_mem_cons.mpr ⟨rfl, ?_⟩,
            congrArg (Registry.dropReceiver · client) asked, settled _⟩
          exact List.forall_mem_singleton.mpr rfl

/-- A hub without its queue. -/
def Hub.drained (hub : Hub) : Hub := { hub with queue := [] }

theorem Hub.drained_broadcast (hub : Hub) (event : Event) :
    (hub.broadcast event).1.drained = hub.drained := by
  rw [broadcast]
  split <;> rfl

namespace Agent

/-! ### Turns -/

/-- What happens in an agent. -/
inductive Turn
  | operate (operation : Operation)
  | register (name : String) (plan : Plan) (interval : UInt64) (required : Bool)
  | startCollectors
  | stopCollectors
  /-- The task of a collector takes a step as if it had not been told to stop. -/
  | collectHeedless (task : Nat)
  /-- A loop takes a step as if it had not been told to stop. -/
  | feedHeedless (feeder : Feeder)
  | connect (attentive : Bool) (capacity : Nat)
  /-- A part of a connection takes a step, if it can take one. -/
  | serve (index : Nat) (part : Connection.Part)
  /-- The peer of a connection does something, and so may the line to it. -/
  | surround (index : Nat) (inbound : List Frame) (line : Line) (peer : Peer)
  /-- Someone other than the loop hands a payload to the hub. -/
  | broadcast (payload : Payload)
  | readNetworkServices
  | readParityHistory

/-- The step of a loop that does not see whether it was told to stop. -/
def feedHeedless (agent : Agent) (feeder : Feeder) : Agent :=
  { ({ agent with cancelled := false }.act (.feed feeder)).1 with cancelled := agent.cancelled }

def proceed : Machine Agent Turn Unit
  | agent, .operate operation => ((agent.operate operation).1, ())
  | agent, .register name plan interval required =>
    (agent.register name plan interval required, ())
  | agent, .startCollectors => (agent.startCollectors.1, ())
  | agent, .stopCollectors => (agent.stopCollectors.1, ())
  | agent, .collectHeedless task =>
    match agent.roster.stepHeedless? agent.bus task agent.time agent.clock.instant with
    | some (roster, bus) => ({ agent with roster, bus }, ())
    | none => (agent, ())
  | agent, .feedHeedless feeder => (agent.feedHeedless feeder, ())
  | agent, .connect attentive capacity => (agent.connect attentive capacity, ())
  | agent, .serve index part =>
    match agent.connections[index]?.bind fun connection =>
        connection.partStep? agent.rules agent.time agent.hub.registry part with
    | some (connection, registry) =>
      ({ agent with
        connections := agent.connections.set index connection
        hub := { agent.hub with registry } }, ())
    | none => (agent, ())
  | agent, .surround index inbound line peer =>
    (agent.modifyConnection index fun connection => { connection with inbound, line, peer }, ())
  | agent, .broadcast payload => ((agent.broadcast payload).1, ())
  | agent, .readNetworkServices =>
    ({ agent with cache := (agent.cache.readNetworkServices agent.clock.elapsed).1 }, ())
  | agent, .readParityHistory =>
    ({ agent with cache := agent.cache.readParityHistory.1 }, ())

/-- The agent after some turns. -/
def course (agent : Agent) (turns : List Turn) : Agent := Machine.run proceed agent turns

/-! ### What a turn asks for -/

theorem act_publish (agent : Agent) (topic : String) (payload : Payload) :
    (agent.act (.ask (.publish topic payload))).1 =
      { agent with bus := (agent.bus.publish topic payload).1 } := by
  rw [act, if_neg (by simp [Bus.Request.receiver?])]
  rfl

theorem later_attend (agent : Agent) (requests : List Registry.Request)
    (others : ∀ request ∈ requests, request.isFromHub = false) :
    agent.later (requests.map .attend) = { agent with
      hub.registry := Machine.run Registry.perform agent.hub.registry requests } := by
  induction requests generalizing agent with
  | nil => rfl
  | cons request rest inductionHypothesis =>
    obtain ⟨other, othersRest⟩ := List.forall_mem_cons.mp others
    have attended : (agent.act (.attend request)).1 =
        { agent with hub.registry := (agent.hub.registry.perform request).1 } := by
      rw [act, if_neg (by rw [other]; exact Bool.false_ne_true)]
    show (agent.act (.attend request)).1.later (rest.map .attend) = _
    rw [attended, inductionHypothesis _ othersRest]
    rfl

/-- Whether an action is asked for by a turn: it is the turn, publishes something, or asks
something of the registry. -/
inductive Turn.Asks (turn : Turn) : Action → Prop
  | own {action : Action} : turn = .operate (.act action) → turn.Asks action
  | publish (topic : String) (payload : Payload) : turn.Asks (.ask (.publish topic payload))
  | attend (request : Registry.Request) : turn.Asks (.attend request)

/-- An agent with nothing but what hangs on the bus, and without the queue of the hub. -/
def core (agent : Agent) : Agent :=
  { agent with
    roster := .empty
    connections := []
    time := 0
    hub := agent.hub.drained
    cache := { Cache.empty with snapshots := agent.cache.snapshots } }

/-- Whether a turn does to the core of an agent nothing but what it asks for. -/
def Turn.Follows (turn : Turn) (agent later : Agent) : Prop :=
  ∃ actions, (∀ action ∈ actions, turn.Asks action) ∧ later.core = (agent.later actions).core

theorem follows_unmoved {agent later : Agent} (turn : Turn) (same : later.core = agent.core) :
    turn.Follows agent later :=
  ⟨[], List.forall_mem_nil _, same⟩

theorem follows_publish {agent later : Agent} (turn : Turn) {bus : Bus Payload}
    (published : bus = agent.bus ∨ ∃ topic payload, bus = (agent.bus.publish topic payload).1)
    (same : later.core = { agent.core with bus }) : turn.Follows agent later := by
  rcases published with rfl | ⟨topic, payload, rfl⟩
  · exact follows_unmoved turn same
  · refine ⟨[.ask (.publish topic payload)],
      List.forall_mem_singleton.mpr (.publish topic payload), same.trans ?_⟩
    exact congrArg core (agent.act_publish topic payload).symm

theorem follows_attend {agent later : Agent} (turn : Turn) {requests : List Registry.Request}
    (others : ∀ request ∈ requests, request.isFromHub = false)
    (same : later.core = { agent.core with
      hub.registry := Machine.run Registry.perform agent.hub.registry requests }) :
    turn.Follows agent later := by
  refine ⟨requests.map .attend, List.forall_mem_map.mpr fun request _ => .attend request,
    same.trans ?_⟩
  exact congrArg core (agent.later_attend requests others).symm

theorem isFromHub_of_isAbout {own : Nat} {request : Registry.Request}
    (about : request.isAbout own = true) : request.isFromHub = false := by
  cases request with
  | fanOut | shutdown => cases about
  | _ => rfl

theorem follows_announceState (agent : Agent) (turn : Turn) (roster : Roster)
    (change : Option CollectorStateEvent) :
    turn.Follows agent ({ agent with roster }.announceState change) := by
  cases change with
  | none => exact follows_unmoved turn rfl
  | some event =>
    exact follows_publish turn (.inr ⟨stateTopic.name, ⟨.collectorState, event⟩, rfl⟩) rfl

/-- Every turn but one does nothing but what it asks for. -/
theorem follows_proceed (agent : Agent) (turn : Turn) :
    (∃ feeder, turn = .feedHeedless feeder) ∨ turn.Follows agent (agent.proceed turn).1 := by
  cases turn with
  | operate operation =>
    refine .inr ?_
    cases operation with
    | enable name | disable name =>
      exact settle_of (Turn.Follows _ agent) (follows_unmoved _ rfl) fun answer =>
        agent.follows_announceState _ answer.1 answer.2
    | changeInterval name seconds =>
      exact settle_of (Turn.Follows _ agent) (follows_unmoved _ rfl) fun roster =>
        follows_unmoved _ rfl
    | collect task =>
      show Turn.Follows _ agent ((agent.stepCollector? task).getD agent)
      rw [stepCollector?]
      cases step : agent.roster.stepTask? agent.bus task agent.time agent.clock.instant with
      | none => exact follows_unmoved _ rfl
      | some result =>
        obtain ⟨_, _, _, -, -, -, rfl⟩ := Roster.stepped_of_stepTask? step
        exact follows_publish _ (agent.roster.bus_stepped _ _ _ _) rfl
    | elapse milliseconds => exact follows_unmoved _ rfl
    | act action => exact ⟨[action], List.forall_mem_singleton.mpr (.own rfl), rfl⟩
  | register | startCollectors | stopCollectors | surround => exact .inr (follows_unmoved _ rfl)
  | broadcast payload =>
    refine .inr (follows_unmoved _ (congrArg (fun hub => { agent.core with hub }) ?_))
    exact agent.hub.drained_broadcast ⟨payload, agent.clock.instant⟩
  | readNetworkServices =>
    refine .inr (follows_unmoved _ ?_)
    rw [proceed, Cache.readNetworkServices]
    split <;> rfl
  | readParityHistory =>
    refine .inr (follows_unmoved _ ?_)
    rw [proceed, Cache.readParityHistory]
    split <;> rfl
  | collectHeedless task =>
    refine .inr ?_
    rw [proceed]
    cases step : agent.roster.stepHeedless? agent.bus task agent.time agent.clock.instant with
    | none => exact follows_unmoved _ rfl
    | some result =>
      obtain ⟨_, _, _, -, -, -, rfl⟩ := Roster.stepped_of_stepHeedless? step
      exact follows_publish _ (agent.roster.bus_stepped _ _ _ _) rfl
  | feedHeedless feeder => exact .inl ⟨feeder, rfl⟩
  | connect attentive capacity =>
    obtain ⟨requests, others, asked, -⟩ := Connection.exists_run_start agent.rules agent.time
      agent.hub.registry (.empty capacity) (.arrive attentive)
    refine .inr (follows_attend _ others ?_)
    rw [← asked]
    rfl
  | serve index part =>
    refine .inr ?_
    rw [proceed]
    split
    · rename_i steps
      obtain ⟨connection, -, steps⟩ := Option.bind_eq_some_iff.mp steps
      obtain ⟨own, requests, about, rfl⟩ := Connection.alters_partStep? steps
      exact follows_attend _ (fun request asked => isFromHub_of_isAbout (about request asked)) rfl
    · exact follows_unmoved _ rfl

/-! ### What every turn keeps -/

/-- What holds of the core of an agent in every run. The registry is shut once the hub has ended. -/
structure Steady (agent : Agent) : Prop where
  wired : agent.Wired
  registry : agent.hub.registry.Sound
  shut : agent.hub.running = false → SharedRegistry.Shut ⟨agent.hub.registry, []⟩

theorem consumer_of_core {agent later : Agent} (same : later.core = agent.core) :
    later.consumer = agent.consumer := by
  have core (agent : Agent) : agent.core.consumer = agent.consumer := by
    funext feeder
    cases feeder <;> rfl
  rw [← core, same, core]

namespace Steady

variable {agent next : Agent}

theorem congr (steady : agent.Steady) (bus : next.bus = agent.bus)
    (consumer : next.consumer = agent.consumer)
    (hub : next.hub.drained = agent.hub.drained) : next.Steady where
  wired := by
    constructor
    · exact bus ▸ steady.wired.sound
    · rw [bus, consumer]
      exact steady.wired.attached
    · rw [consumer]
      exact steady.wired.apart
    · have wired : next.hub.drained.running = false → next.hub.drained.cancelled = true := by
        rw [hub]
        exact steady.wired.hub
      exact wired
  registry := by
    show next.hub.drained.registry.Sound
    rw [hub]
    exact steady.registry
  shut := by
    show next.hub.drained.running = false → SharedRegistry.Shut ⟨next.hub.drained.registry, []⟩
    rw [hub]
    exact steady.shut

theorem of_core (steady : agent.Steady) (same : next.core = agent.core) : next.Steady :=
  steady.congr (congrArg (·.bus) same) (consumer_of_core same) (congrArg (·.hub) same)

theorem act (steady : agent.Steady) (action : Action) : (agent.act action).1.Steady := by
  have registry : (agent.act action).1.hub.registry.Sound := by
    rw [registry_act]
    cases (agent.act action).2 with
    | none => exact steady.registry
    | some request => exact steady.registry.perform request
  refine ⟨steady.wired.act action, registry, fun ended => ?_⟩
  have unmoved (hub : (agent.act action).1.hub.drained = agent.hub.drained) :
      SharedRegistry.Shut ⟨(agent.act action).1.hub.registry, []⟩ := by
    change (agent.act action).1.hub.drained.running = false at ended
    show SharedRegistry.Shut ⟨(agent.act action).1.hub.drained.registry, []⟩
    rw [hub] at ended ⊢
    exact steady.shut ended
  cases action with
  | ask request =>
    rcases agent.act_ask request with ⟨-, nothing⟩ | ⟨-, asked⟩
    · exact unmoved (congrArg (·.1.hub.drained) nothing)
    · exact unmoved (congrArg (·.1.hub.drained) asked)
  | feed feeder =>
    cases feeder with
    | cache => exact unmoved (congrArg (·.hub.drained) agent.act_feed_cache)
    | broadcast =>
      refine unmoved ((congrArg (·.hub.drained) agent.act_feed_broadcast).trans ?_)
      dsimp only
      cases (agent.feederStep .broadcast).2 with
      | none => rfl
      | some payload => exact agent.hub.drained_broadcast ⟨payload, agent.clock.instant⟩
  | fanOut =>
    rw [act_fanOut] at ended unmoved ⊢
    rcases agent.hub.step_cases with ⟨waits, -⟩ | ⟨-, -, -, ends⟩ | ⟨running, _, _, -, -, goes⟩
    · exact unmoved (congrArg Hub.drained waits)
    · show SharedRegistry.Shut ⟨agent.hub.step.registry, []⟩
      rw [ends]
      exact SharedRegistry.shut_shutdown ⟨agent.hub.registry, []⟩
    · change agent.hub.step.running = false at ended
      rw [goes] at ended
      cases running.symm.trans ended
  | attend request =>
    rw [Agent.act] at ended unmoved ⊢
    split at ended
    · rename_i fromHub
      rw [if_pos fromHub] at unmoved ⊢
      exact unmoved rfl
    · rename_i foreign
      rw [if_neg foreign]
      refine (steady.shut ended).ask steady.registry ?_
      rintro event rfl
      exact foreign rfl
  | tick clock | cancel | cancelHub => exact steady.shut ended

theorem later (steady : agent.Steady) (actions : List Action) : (agent.later actions).Steady :=
  Machine.run_invariant Agent.act Steady (fun _ action steady => steady.act action) steady actions

theorem heedless (steady : agent.Steady) : Steady { agent with cancelled := false } :=
  steady.congr rfl rfl rfl

theorem feedHeedless (steady : agent.Steady) (feeder : Feeder) :
    (agent.feedHeedless feeder).Steady :=
  (steady.heedless.act (.feed feeder)).congr rfl rfl rfl

theorem proceed (steady : agent.Steady) (turn : Turn) : (agent.proceed turn).1.Steady := by
  rcases agent.follows_proceed turn with ⟨feeder, rfl⟩ | ⟨actions, -, same⟩
  · exact steady.feedHeedless feeder
  · exact (steady.later actions).of_core same

end Steady

/-! ### What the bus is asked for -/

/-- Whether a request to the bus is made by a loop about its own mailbox. -/
def IsFromLoop (agent : Agent) (request : Bus.Request Payload) : Prop :=
  ∃ feeder, request = .unsubscribe (agent.consumer feeder).mailbox [] ∨
    request.receiver? = some (agent.consumer feeder).mailbox

/-- Whether the bus has come of what was asked for and what the loops do there. The loops keep their
mailboxes. -/
structure Uses (asked : Bus.Request Payload → Prop) (agent later : Agent) : Prop where
  mailbox : ∀ feeder, (later.consumer feeder).mailbox = (agent.consumer feeder).mailbox
  bus : ∃ requests, later.bus = Machine.run Bus.perform agent.bus requests ∧
    ∀ request ∈ requests, asked request ∨ agent.IsFromLoop request

namespace Uses

variable {asked more : Bus.Request Payload → Prop} {agent later last : Agent}

theorem of_unmoved (bus : later.bus = agent.bus) (consumer : later.consumer = agent.consumer) :
    Uses asked agent later where
  mailbox feeder := by rw [consumer]
  bus := ⟨[], bus, List.forall_mem_nil _⟩

theorem mono (uses : Uses asked agent later) (every : ∀ request, asked request → more request) :
    Uses more agent later where
  mailbox := uses.mailbox
  bus := by
    obtain ⟨requests, run, each⟩ := uses.bus
    exact ⟨requests, run, fun request member => (each request member).imp_left (every request)⟩

theorem trans (first : Uses asked agent later) (second : Uses asked later last) :
    Uses asked agent last where
  mailbox feeder := (second.mailbox feeder).trans (first.mailbox feeder)
  bus := by
    have same (request : Bus.Request Payload) (own : later.IsFromLoop request) :
        agent.IsFromLoop request := by
      obtain ⟨feeder, own⟩ := own
      exact ⟨feeder, first.mailbox feeder ▸ own⟩
    obtain ⟨requests, run, each⟩ := first.bus
    obtain ⟨others, goesOn, eachOther⟩ := second.bus
    refine ⟨requests ++ others, ?_, List.forall_mem_append.mpr ⟨each, fun request member => ?_⟩⟩
    · rw [Machine.run_append, ← run]
      exact goesOn
    · exact (eachOther request member).imp_right (same request)

theorem of_core {next : Agent} (uses : Uses asked agent later) (same : next.core = later.core) :
    Uses asked agent next :=
  uses.trans (of_unmoved (congrArg (·.bus) same) (consumer_of_core same))

/-- A mailbox that is no loop's, and has a receiver at the end, is under the same topics as before
unless it was unsubscribed. -/
theorem mem_registered_iff (uses : Uses asked agent later) (sound : agent.bus.Sound) {id : Nat}
    (issued : id < agent.bus.nextId) (other : ∀ feeder, id ≠ (agent.consumer feeder).mailbox)
    (alive : later.bus.waiting? id ≠ none) (stays : ∀ topics, ¬asked (.unsubscribe id topics))
    (topic : String) : id ∈ later.bus.registered topic ↔ id ∈ agent.bus.registered topic := by
  obtain ⟨requests, run, each⟩ := uses.bus
  rw [run] at alive ⊢
  refine (sound.mem_registered_run_iff issued alive fun topics member => ?_).2 topic
  rcases each _ member with asked | ⟨feeder, own | own⟩
  · exact stays topics asked
  · cases own
    exact other feeder rfl
  · cases own

end Uses

namespace Wired

variable {agent : Agent}

theorem uses_act (wired : agent.Wired) (action : Action) :
    Uses (action = .ask ·) agent (agent.act action).1 := by
  refine ⟨wired.mailbox_act action, ?_⟩
  rcases agent.action_cases action with ⟨request, rfl⟩ | ⟨feeder, rfl⟩ | ⟨bus, -, -⟩
  · rcases agent.act_ask request with ⟨-, nothing⟩ | ⟨-, asked⟩
    · exact ⟨[], congrArg (·.1.bus) nothing, List.forall_mem_nil _⟩
    · exact ⟨[request], congrArg (·.1.bus) asked, List.forall_mem_singleton.mpr (.inl rfl)⟩
  · obtain ⟨requests, run, each⟩ := (wired.attached feeder).exists_run_advance agent.cancelled
    exact ⟨requests, (agent.bus_feed feeder).trans run, fun request member =>
      .inr ⟨feeder, each request member⟩⟩
  · exact ⟨[], bus, List.forall_mem_nil _⟩

theorem uses_later (wired : agent.Wired) (actions : List Action) :
    Uses (.ask · ∈ actions) agent (agent.later actions) := by
  induction actions generalizing agent with
  | nil => exact .of_unmoved rfl rfl
  | cons action rest inductionHypothesis =>
    refine Uses.trans ((wired.uses_act action).mono fun request own => ?_)
      ((inductionHypothesis (wired.act action)).mono fun request member => ?_)
    · exact own ▸ List.mem_cons_self
    · exact List.mem_cons_of_mem _ member

end Wired

namespace Steady

variable {agent : Agent}

theorem uses_feedHeedless (steady : agent.Steady) (feeder : Feeder)
    (asked : Bus.Request Payload → Prop) : Uses asked agent (agent.feedHeedless feeder) := by
  have forgets : Uses asked agent { agent with cancelled := false } := .of_unmoved rfl rfl
  have steps := (steady.heedless.wired.uses_act (.feed feeder)).mono fun request same =>
    show asked request by cases same
  have recalls : Uses asked (Agent.act { agent with cancelled := false } (.feed feeder)).1
      (agent.feedHeedless feeder) := .of_unmoved rfl rfl
  exact (forgets.trans steps).trans recalls

theorem uses_proceed (steady : agent.Steady) (turn : Turn) :
    Uses (fun request => turn.Asks (.ask request)) agent (agent.proceed turn).1 := by
  rcases agent.follows_proceed turn with ⟨feeder, rfl⟩ | ⟨actions, each, same⟩
  · exact steady.uses_feedHeedless feeder _
  · refine Uses.of_core ((steady.wired.uses_later actions).mono ?_) same
    exact fun request member => each _ member

/-- The bus of a running agent is asked for what its turns ask for. -/
theorem uses_course (steady : agent.Steady) (turns : List Turn) :
    Uses (fun request => ∃ turn ∈ turns, turn.Asks (.ask request)) agent (agent.course turns) := by
  induction turns generalizing agent with
  | nil => exact .of_unmoved rfl rfl
  | cons turn rest inductionHypothesis =>
    refine Uses.trans ((steady.uses_proceed turn).mono fun request asked => ?_)
      ((inductionHypothesis (steady.proceed turn)).mono fun request asked => ?_)
    · exact ⟨turn, List.mem_cons_self, asked⟩
    · obtain ⟨other, member, asked⟩ := asked
      exact ⟨other, List.mem_cons_of_mem _ member, asked⟩

end Steady

/-! ### What is asked of the roster -/

/-- What a turn asks of the roster. -/
def request? (agent : Agent) : Turn → Option Roster.Request
  | .operate operation => agent.inquiry? operation
  | .register name plan interval required => some (.register name plan interval required)
  | .startCollectors => some (.startAll agent.time)
  | .stopCollectors => some .stopAll
  | .collectHeedless task =>
    some (.stepHeedless task agent.bus agent.time agent.clock.instant)
  | _ => none

/-- The turns that ask something of the roster, with what they ask. -/
inductive Turn.Requests (agent : Agent) : Turn → Roster.Request → Prop
  | register (name : String) (plan : Plan) (interval : UInt64) (required : Bool) :
    Requests agent (.register name plan interval required) (.register name plan interval required)
  | startAll : Requests agent .startCollectors (.startAll agent.time)
  | stopAll : Requests agent .stopCollectors .stopAll
  | enable (name : String) :
    Requests agent (.operate (.enable name)) (.enable name agent.time agent.clock.instant)
  | disable (name : String) :
    Requests agent (.operate (.disable name)) (.disable name agent.clock.instant)
  | changeInterval (name : String) (seconds : UInt64) :
    Requests agent (.operate (.changeInterval name seconds))
      (.changeInterval name seconds agent.time)
  | step (id : Nat) :
    Requests agent (.operate (.collect id)) (.step id agent.bus agent.time agent.clock.instant)
  | stepHeedless (id : Nat) :
    Requests agent (.collectHeedless id)
      (.stepHeedless id agent.bus agent.time agent.clock.instant)
  | shutdown : Requests agent (.operate (.act .cancel)) .shutdown

theorem requests_of_request? {agent : Agent} {turn : Turn} {request : Roster.Request}
    (asks : agent.request? turn = some request) : turn.Requests agent request := by
  cases turn with
  | register => cases asks; exact .register _ _ _ _
  | startCollectors => cases asks; exact .startAll
  | stopCollectors => cases asks; exact .stopAll
  | collectHeedless id => cases asks; exact .stepHeedless id
  | operate operation =>
    cases operation with
    | enable name => cases asks; exact .enable name
    | disable name => cases asks; exact .disable name
    | changeInterval name seconds => cases asks; exact .changeInterval name seconds
    | collect id => cases asks; exact .step id
    | elapse => cases asks
    | act action =>
      cases action with
      | cancel => cases asks; exact .shutdown
      | _ => cases asks
  | _ => cases asks

/-- A turn does to the roster what it asks of it. -/
theorem roster_proceed (agent : Agent) (turn : Turn) :
    (agent.proceed turn).1.roster = (agent.request? turn).elim agent.roster fun request =>
      (agent.roster.perform request).1 := by
  cases turn with
  | operate operation => exact agent.roster_operate operation
  | register | startCollectors | stopCollectors | connect | surround | broadcast |
    readNetworkServices | readParityHistory => rfl
  | collectHeedless task =>
    rw [proceed, request?, Option.elim_some, Roster.perform]
    cases agent.roster.stepHeedless? agent.bus task agent.time agent.clock.instant <;> rfl
  | feedHeedless feeder => exact roster_act { agent with cancelled := false } (.feed feeder)
  | serve index part =>
    rw [proceed]
    split <;> rfl

/-- A turn keeps of the roster what requests keep. -/
theorem roster_kept (property : Roster → Prop) {agent : Agent} (holds : property agent.roster)
    (performed : ∀ request, property (agent.roster.perform request).1) (turn : Turn) :
    property (agent.proceed turn).1.roster := by
  rw [agent.roster_proceed]
  cases agent.request? turn with
  | none => exact holds
  | some request => exact performed request

/-- A collector that runs did so before or was started by name or with all others. -/
theorem runs_of_proceed {agent : Agent} (accounted : agent.roster.Accounted) {turn : Turn}
    {name : String} (runs : (agent.proceed turn).1.roster.Runs name) :
    agent.roster.Runs name ∨ turn = .startCollectors ∨ turn = .operate (.enable name) := by
  rw [agent.roster_proceed] at runs
  cases asks : agent.request? turn with
  | none =>
    rw [asks] at runs
    exact .inl runs
  | some request =>
    rw [asks] at runs
    obtain ⟨handed, sound⟩ := accounted.sound
    refine (sound.runs_of_perform runs).imp_right fun starts => ?_
    cases requests_of_request? asks with
    | startAll => exact .inl rfl
    | enable other =>
      rw [of_decide_eq_true starts]
      exact .inr rfl
    | _ => cases starts

/-! ### What becomes of the connections -/

/-- No action touches the connections, or takes back that the loops were told to stop. -/
theorem act_frame (agent : Agent) (action : Action) :
    (agent.act action).1.connections = agent.connections ∧
      (agent.cancelled = true → (agent.act action).1.cancelled = true) := by
  cases action with
  | ask request => rw [act]; split <;> exact ⟨rfl, id⟩
  | feed feeder =>
    cases feeder with
    | cache => rw [act_feed_cache]; exact ⟨rfl, id⟩
    | broadcast => rw [act_feed_broadcast]; exact ⟨rfl, id⟩
  | fanOut => rw [act_fanOut]; exact ⟨rfl, id⟩
  | attend request => rw [act]; split <;> exact ⟨rfl, id⟩
  | tick clock | cancelHub => exact ⟨rfl, id⟩
  | cancel => exact ⟨rfl, fun _ => rfl⟩

end Agent

/-- A peer that comes when the hub is closed is sent away. -/
theorem Connection.hasReturned_start_of_closed {registry : Registry}
    (closed : registry.closed = true) (rules : StreamRules) (now : Nat) (line : Line)
    (peer : Peer) :
    (start rules now registry line peer).1.hasReturned = true := by
  rw [start]
  split
  · rfl
  · rw [Registry.register, if_pos closed]
    rfl

namespace Agent

theorem connections_operate (agent : Agent) (operation : Operation) :
    (agent.operate operation).1.connections = agent.connections := by
  cases operation with
  | enable name | disable name =>
    refine settle_of (·.connections = agent.connections) rfl ?_
    rintro ⟨roster, _ | event⟩ <;> rfl
  | changeInterval name seconds =>
    exact settle_of (·.connections = agent.connections) rfl fun roster => rfl
  | collect task =>
    show ((agent.stepCollector? task).getD agent).connections = _
    rw [stepCollector?]
    cases agent.roster.stepTask? agent.bus task agent.time agent.clock.instant <;> rfl
  | elapse milliseconds => rfl
  | act action => exact (agent.act_frame action).1

/-- A connection is new, or was there and goes on as connections do. -/
theorem of_mem_connections_proceed {agent : Agent} {turn : Turn} {moved : Connection}
    (member : moved ∈ (agent.proceed turn).1.connections) :
    moved.Settled ∧ (agent.hub.registry.closed = true → moved.hasReturned = true) ∨
      ∃ connection ∈ agent.connections, connection.Settled →
        moved.Settled ∧ (connection.hasReturned = true → moved.hasReturned = true) := by
  have unmoved (before : moved ∈ agent.connections) :
      ∃ connection ∈ agent.connections, connection.Settled →
        moved.Settled ∧ (connection.hasReturned = true → moved.hasReturned = true) :=
    ⟨moved, before, fun settled => ⟨settled, id⟩⟩
  cases turn with
  | operate operation => exact .inr (unmoved (agent.connections_operate operation ▸ member))
  | register | startCollectors | stopCollectors | broadcast | readNetworkServices |
    readParityHistory => exact .inr (unmoved member)
  | collectHeedless task =>
    rw [proceed] at member
    split at member <;> exact .inr (unmoved member)
  | feedHeedless feeder =>
    have same := (act_frame { agent with cancelled := false } (.feed feeder)).1
    exact .inr (unmoved (same ▸ member))
  | connect attentive capacity =>
    rcases List.mem_append.mp member with before | new
    · exact .inr (unmoved before)
    · obtain rfl := List.mem_singleton.mp new
      obtain ⟨-, -, -, settled⟩ := Connection.exists_run_start agent.rules agent.time
        agent.hub.registry (.empty capacity) (.arrive attentive)
      exact .inl ⟨settled, fun closed => Connection.hasReturned_start_of_closed closed _ _ _ _⟩
  | serve index part =>
    rw [proceed] at member
    split at member
    · rename_i steps
      obtain ⟨connection, present, steps⟩ := Option.bind_eq_some_iff.mp steps
      rcases List.mem_or_eq_of_mem_set member with before | rfl
      · exact .inr (unmoved before)
      · exact .inr ⟨connection, List.mem_of_getElem? present, fun settled =>
          settled.partStep? steps⟩
    · exact .inr (unmoved member)
  | surround index inbound line peer =>
    obtain ⟨position, found⟩ := List.mem_iff_getElem?.mp member
    rw [proceed, modifyConnection, List.getElem?_modify] at found
    obtain ⟨connection, present, rfl⟩ := Option.map_eq_some_iff.mp found
    refine .inr ⟨connection, List.mem_of_getElem? present, fun settled => ?_⟩
    split
    · exact ⟨⟨settled.unserved, settled.reader, settled.writer⟩, id⟩
    · exact ⟨settled, id⟩

/-! ### What every agent keeps -/

/-- What holds of an agent in every run. -/
structure Orderly (agent : Agent) : Prop where
  steady : agent.Steady
  roster : agent.roster.Accounted
  connections : ∀ connection ∈ agent.connections, connection.Settled

namespace Orderly

theorem fresh (busBuffer : Nat) (rules : StreamRules) (crossOrigin : Bool) (cache : Cache)
    (clock : Clock) : (fresh busBuffer rules crossOrigin cache clock).Orderly where
  steady := ⟨(wired_fresh busBuffer rules crossOrigin cache clock).1, .withCapacity _, nofun⟩
  roster := .empty
  connections := List.forall_mem_nil _

variable {agent : Agent}

theorem proceed (orderly : agent.Orderly) (turn : Turn) : (agent.proceed turn).1.Orderly where
  steady := orderly.steady.proceed turn
  roster := roster_kept Roster.Accounted orderly.roster orderly.roster.perform turn
  connections moved member := by
    rcases of_mem_connections_proceed member with ⟨settled, -⟩ | ⟨connection, before, kept⟩
    · exact settled
    · exact (kept (orderly.connections connection before)).1

theorem course (orderly : agent.Orderly) (turns : List Turn) : (agent.course turns).Orderly :=
  Machine.run_invariant Agent.proceed Orderly (fun _ turn orderly => orderly.proceed turn) orderly
    turns

/-- A collector that runs did so before or was started since. -/
theorem runs_of_course (orderly : agent.Orderly) {turns : List Turn} {name : String}
    (runs : (agent.course turns).roster.Runs name) :
    agent.roster.Runs name ∨ .startCollectors ∈ turns ∨ .operate (.enable name) ∈ turns := by
  induction turns generalizing agent with
  | nil => exact .inl runs
  | cons turn rest inductionHypothesis =>
    rcases inductionHypothesis (orderly.proceed turn) runs with between | all | enabled
    · rcases runs_of_proceed orderly.roster between with before | rfl | rfl
      · exact .inl before
      · exact .inr (.inl List.mem_cons_self)
      · exact .inr (.inr List.mem_cons_self)
    · exact .inr (.inl (List.mem_cons_of_mem _ all))
    · exact .inr (.inr (List.mem_cons_of_mem _ enabled))

end Orderly

end Agent

end ServerMonitor
