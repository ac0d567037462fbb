/-
This file states that a shutdown is complete. The token above all tasks is cancelled
at any time and all collectors are stopped, while everything else goes on; some tasks
may act for a while as if they had not been told. In every state in which nobody can
go on, all have ended and have taken back what they had registered: nobody feeds the
cache or the hub any more, and nobody is left to be fed.
-/

import ServerMonitor.Proofs.Agent.Course

namespace ServerMonitor

/-! ### Queues that only drain -/

namespace Registry

/-- Whether the clients of a registry have been there before and have been given nothing since. -/
def Drains (registry later : Registry) : Prop :=
  ∀ client ∈ later.clients, ∃ before ∈ registry.clients,
    before.id = client.id ∧ client.outbox <:+ before.outbox

variable {registry later last : Registry}

theorem Drains.refl (registry : Registry) : registry.Drains registry :=
  fun client member => ⟨client, member, rfl, List.suffix_rfl⟩

theorem Drains.trans (first : registry.Drains later) (second : later.Drains last) :
    registry.Drains last := by
  intro client member
  obtain ⟨between, betweenMember, betweenId, rest⟩ := second client member
  obtain ⟨before, beforeMember, beforeId, more⟩ := first between betweenMember
  exact ⟨before, beforeMember, beforeId.trans betweenId, rest.trans more⟩

/-- Nobody comes to a closed registry, and only a fan-out gives something to those who are there. -/
theorem Sound.drains_perform (sound : registry.Sound) (closed : registry.closed = true)
    {request : Request} (other : request.isFromHub = false) :
    registry.Drains (registry.perform request).1 := by
  intro client member
  rcases (sound.mem_clients_perform_iff request client).mp member with
    ⟨before, present, rfl⟩ | joins
  · refine ⟨before, present, (before.after_id _ request).symm, ?_⟩
    refine before.outbox_after_suffix _ fun event same => ?_
    subst same
    cases other
  · obtain ⟨-, joining, -⟩ := Sound.eq_newcomer joins
    rw [Registry.joining, if_pos closed] at joining
    cases joining

end Registry

namespace Agent

/-! ### Agents that were told to stop -/

/-- Whether every task of an agent has been told to stop. -/
structure Halted (agent : Agent) : Prop where
  loops : agent.cancelled = true
  hub : agent.hub.cancelled = true
  roster : agent.roster.shutdown = true

theorem Steady.hub_cancelled_act {agent : Agent} (steady : agent.Steady)
    (cancelled : agent.hub.cancelled = true) (action : Action) :
    (agent.act action).1.hub.cancelled = true := by
  by_contra goesOn
  have before := (hub_act steady.wired.hub action).2.2 (Bool.eq_false_iff.mpr goesOn)
  cases cancelled.symm.trans before

theorem persistent_shutdown : Roster.Persistent (·.shutdown = true) where
  setEntry _ _ shutdown := shutdown
  marks _ _ marks shutdown := marks.shutdown.trans shutdown
  start _ _ _ shutdown := shutdown
  added _ _ shutdown := shutdown
  moved _ _ _ _ moved shutdown := moved.shutdown.trans shutdown
  shutdown _ _ := rfl

namespace Halted

variable {agent : Agent}

/-- Nobody takes back that all were told to stop. -/
theorem proceed (halted : agent.Halted) (steady : agent.Steady) (turn : Turn) :
    (agent.proceed turn).1.Halted := by
  have roster : (agent.proceed turn).1.roster.shutdown = true :=
    roster_kept (·.shutdown = true) halted.roster (persistent_shutdown.perform · halted.roster) turn
  rcases agent.follows_proceed turn with ⟨feeder, rfl⟩ | ⟨actions, -, same⟩
  · exact ⟨halted.loops, steady.heedless.hub_cancelled_act halted.hub (.feed feeder), roster⟩
  · have later : (agent.later actions).Steady ∧ (agent.later actions).cancelled = true ∧
        (agent.later actions).hub.cancelled = true :=
      Machine.run_invariant Agent.act
        (fun agent => agent.Steady ∧ agent.cancelled = true ∧ agent.hub.cancelled = true)
        (fun agent action kept => ⟨kept.1.act action, (agent.act_frame action).2 kept.2.1,
          kept.1.hub_cancelled_act kept.2.2 action⟩)
        ⟨steady, halted.loops, halted.hub⟩ actions
    refine ⟨?_, ?_, roster⟩
    · exact (congrArg (·.cancelled) same).trans later.2.1
    · exact (congrArg (·.hub.cancelled) same).trans later.2.2

theorem course (halted : agent.Halted) (steady : agent.Steady) (turns : List Turn) :
    (agent.course turns).Halted :=
  (Machine.run_invariant Agent.proceed (fun agent => agent.Steady ∧ agent.Halted)
    (fun _ turn kept => ⟨kept.1.proceed turn, kept.2.proceed kept.1 turn⟩) ⟨steady, halted⟩
    turns).2

end Halted

/-! ### Agents that have ended -/

/-- Whether nobody is left who feeds the cache or the hub. -/
structure Silent (agent : Agent) : Prop where
  loops : ∀ feeder, (agent.consumer feeder).running = false
  hub : agent.hub.running = false

/-- Whether nobody is left either who serves a client. -/
structure Ended (agent : Agent) : Prop extends Silent agent where
  connections : ∀ connection ∈ agent.connections, connection.hasReturned = true

/-- Whether nothing has reached the entries that the bus feeds, or a client, in between. -/
structure Spares (agent later : Agent) : Prop where
  cache : later.cache.snapshots = agent.cache.snapshots
  clients : agent.hub.registry.Drains later.hub.registry

namespace Spares

theorem refl (agent : Agent) : agent.Spares agent := ⟨rfl, .refl _⟩

theorem trans {agent later last : Agent} (first : agent.Spares later)
    (second : later.Spares last) : agent.Spares last :=
  ⟨second.cache.trans first.cache, first.clients.trans second.clients⟩

end Spares

section

variable {agent : Agent}

theorem spares_act (silent : agent.Silent) (steady : agent.Steady) (action : Action) :
    (agent.act action).1.Silent ∧ agent.Spares (agent.act action).1 := by
  cases action with
  | ask request =>
    rcases agent.act_ask request with ⟨-, nothing⟩ | ⟨-, asked⟩
    · rw [nothing]
      exact ⟨silent, .refl agent⟩
    · rw [asked]
      exact ⟨⟨silent.loops, silent.hub⟩, rfl, .refl _⟩
  | feed feeder =>
    have waits : (agent.act (.feed feeder)).1 = agent := by
      cases feeder with
      | cache =>
        have ended : agent.cacheLoop.running = false := silent.loops .cache
        rw [act, stepCacheLoop?, Consumer.step?_of_ended ended]
        rfl
      | broadcast =>
        have ended : agent.broadcastLoop.running = false := silent.loops .broadcast
        rw [act, stepBroadcastLoop?, Consumer.step?_of_ended ended]
        rfl
    rw [waits]
    exact ⟨silent, .refl agent⟩
  | fanOut =>
    have waits : agent.hub.isReady = false := by rw [Hub.isReady, silent.hub, Bool.false_and]
    rw [act_fanOut, Hub.step_of_not_ready waits]
    exact ⟨silent, .refl agent⟩
  | attend request =>
    rw [act]
    split
    · exact ⟨silent, .refl agent⟩
    · rename_i foreign
      have closed := (steady.shut silent.hub).closed
      have drains := steady.registry.drains_perform closed (Bool.eq_false_iff.mpr foreign)
      exact ⟨⟨silent.loops, silent.hub⟩, rfl, drains⟩
  | tick clock | cancel | cancelHub => exact ⟨⟨silent.loops, silent.hub⟩, rfl, .refl _⟩

theorem spares_later (silent : agent.Silent) (steady : agent.Steady) (actions : List Action) :
    (agent.later actions).Silent ∧ agent.Spares (agent.later actions) := by
  induction actions generalizing agent with
  | nil => exact ⟨silent, .refl agent⟩
  | cons action rest inductionHypothesis =>
    obtain ⟨silentNow, spares⟩ := spares_act silent steady action
    obtain ⟨silentLater, sparesLater⟩ := inductionHypothesis silentNow (steady.act action)
    exact ⟨silentLater, spares.trans sparesLater⟩

/-- When the loops have ended no turn reaches the cache or a client. -/
theorem spares_proceed (silent : agent.Silent) (steady : agent.Steady) (turn : Turn) :
    (agent.proceed turn).1.Silent ∧ agent.Spares (agent.proceed turn).1 := by
  rcases agent.follows_proceed turn with ⟨feeder, rfl⟩ | ⟨actions, -, same⟩
  · have heedless : Silent { agent with cancelled := false } := ⟨silent.loops, silent.hub⟩
    obtain ⟨silentNow, spares⟩ := spares_act heedless steady.heedless (.feed feeder)
    exact ⟨⟨silentNow.loops, silentNow.hub⟩, spares.cache, spares.clients⟩
  · obtain ⟨silentLater, spares⟩ := spares_later silent steady actions
    have cache : (agent.proceed turn).1.cache.snapshots = (agent.later actions).cache.snapshots :=
      congrArg (·.cache.snapshots) same
    have registry : (agent.proceed turn).1.hub.registry = (agent.later actions).hub.registry :=
      congrArg (·.hub.registry) same
    refine ⟨⟨?_, ?_⟩, cache.trans spares.cache, ?_⟩
    · rw [consumer_of_core same]
      exact silentLater.loops
    · exact (congrArg (·.hub.running) same).trans silentLater.hub
    · rw [registry]
      exact spares.clients

end

namespace Ended

variable {agent : Agent}

theorem proceed (ended : agent.Ended) (orderly : agent.Orderly) (turn : Turn) :
    (agent.proceed turn).1.Ended ∧ agent.Spares (agent.proceed turn).1 := by
  obtain ⟨silent, spares⟩ := spares_proceed ended.toSilent orderly.steady turn
  refine ⟨⟨silent, fun moved member => ?_⟩, spares⟩
  rcases of_mem_connections_proceed member with ⟨-, refused⟩ | ⟨connection, before, kept⟩
  · exact refused (orderly.steady.shut ended.hub).closed
  · exact (kept (orderly.connections connection before)).2 (ended.connections connection before)

/-- What has ended has ended for good. -/
theorem course (ended : agent.Ended) (orderly : agent.Orderly) (turns : List Turn) :
    (agent.course turns).Ended ∧ agent.Spares (agent.course turns) := by
  induction turns generalizing agent with
  | nil => exact ⟨ended, .refl agent⟩
  | cons turn rest inductionHypothesis =>
    obtain ⟨endedNow, spares⟩ := ended.proceed orderly turn
    obtain ⟨endedLater, sparesLater⟩ := inductionHypothesis endedNow (orderly.proceed turn)
    exact ⟨endedLater, spares.trans sparesLater⟩

end Ended

/-! ### Rest -/

/-- Whether no task of an agent can take a step. -/
structure AtRest (agent : Agent) : Prop where
  collectors : ∀ task ∈ agent.roster.tasks, agent.stepCollector? task.id = none
  cacheLoop : agent.stepCacheLoop? = none
  broadcastLoop : agent.stepBroadcastLoop? = none
  hub : agent.stepHub? = none
  connections : ∀ connection ∈ agent.connections,
    connection.step? agent.rules agent.time false agent.hub.registry = none

namespace AtRest

variable {agent : Agent}

theorem isOver (rest : agent.AtRest) (orderly : agent.Orderly) (halted : agent.Halted) :
    ∀ task ∈ agent.roster.tasks, task.phase.isOver = true :=
  orderly.roster.isOver_of_rest halted.roster fun task member =>
    Option.map_eq_none_iff.mp (rest.collectors task member)

/-- An agent that was told to stop and cannot go on has ended, if all peers take what is sent. -/
theorem ended (rest : agent.AtRest) (orderly : agent.Orderly) (halted : agent.Halted)
    (accepts : ∀ connection ∈ agent.connections, connection.line.isBlocked = false) :
    agent.Ended := by
  have loops (feeder : Feeder) : (agent.consumer feeder).running = false := by
    have waits : (agent.consumer feeder).step? agent.cancelled agent.bus = none := by
      cases feeder with
      | cache => exact Option.map_eq_none_iff.mp rest.cacheLoop
      | broadcast => exact Option.map_eq_none_iff.mp rest.broadcastLoop
    rw [halted.loops] at waits
    exact Consumer.ended_of_step?_eq_none waits
  have hub : agent.hub.running = false := by
    have waits := rest.hub
    rw [stepHub?, Hub.isReady, halted.hub, Bool.true_or, Bool.and_true] at waits
    cases running : agent.hub.running with
    | false => rfl
    | true =>
      rw [running] at waits
      cases waits
  refine ⟨⟨loops, hub⟩, fun connection member => ?_⟩
  have waits := rest.connections connection member
  rw [Connection.step?, Option.or_eq_none_iff, Option.or_eq_none_iff, Option.or_eq_none_iff]
    at waits
  obtain ⟨-, writes, handles, -⟩ := waits
  exact (orderly.connections connection member).hasReturned_of_rest
    (orderly.steady.shut hub).gone (accepts connection member) writes handles

end AtRest

/-! ### The shutdown that is carried out -/

/-- Whether an agent comes of another by some turns. -/
def Reaches (agent later : Agent) : Prop := ∃ turns, later = agent.course turns

namespace Reaches

variable {agent later last : Agent}

theorem refl (agent : Agent) : agent.Reaches agent := ⟨[], rfl⟩

theorem trans (first : agent.Reaches later) (second : later.Reaches last) : agent.Reaches last := by
  obtain ⟨turns, rfl⟩ := first
  obtain ⟨others, rfl⟩ := second
  exact ⟨turns ++ others, (Machine.run_append proceed agent turns others).symm⟩

theorem repeatStep {step? : Agent → Option Agent} (turn : Turn)
    (taken : ∀ agent, (proceed agent turn).1 = (step? agent).getD agent) (steps : Nat)
    (agent : Agent) : agent.Reaches (agent.repeatStep step? steps) := by
  induction steps generalizing agent with
  | zero => exact refl agent
  | succ steps inductionHypothesis =>
    have turned := taken agent
    rw [Agent.repeatStep]
    cases step : step? agent with
    | none => exact refl agent
    | some next =>
      rw [step] at turned
      exact trans ⟨[turn], turned.symm⟩ (inductionHypothesis next)

theorem serve {past others : List Connection} {connection : Connection} (steps : Nat)
    (agent : Agent) (there : agent.connections = past ++ connection :: others) :
    let served := connection.run agent.rules agent.time false steps agent.hub.registry
    agent.Reaches { agent with
      connections := past ++ served.1 :: others, hub.registry := served.2 } := by
  induction steps generalizing agent connection with
  | zero =>
    rw [Connection.run]
    dsimp only
    rw [← there]
    exact refl agent
  | succ steps inductionHypothesis =>
    rw [Connection.run]
    cases step : connection.step? agent.rules agent.time false agent.hub.registry with
    | none =>
      dsimp only
      rw [← there]
      exact refl agent
    | some result =>
      obtain ⟨moved, registry⟩ := result
      obtain ⟨part, steps⟩ := Connection.exists_part_of_step? step
      have turn : (proceed agent (.serve past.length part)).1 =
          { agent with connections := past ++ moved :: others, hub.registry := registry } := by
        have found : agent.connections[past.length]? = some connection := by simp [there]
        have set : agent.connections.set past.length moved = past ++ moved :: others := by
          simp [there]
        rw [proceed, found, Option.bind_some, steps]
        dsimp only
        rw [set]
      exact trans ⟨[_], turn.symm⟩ (inductionHypothesis _ rfl)

theorem restEach {past waiting : List Connection} (agent : Agent)
    (there : agent.connections = past ++ waiting) :
    let served := Agent.restEach agent.rules agent.time agent.hub.registry waiting
    agent.Reaches { agent with
      connections := past ++ served.1, hub.registry := served.2 } := by
  induction waiting generalizing agent past with
  | nil =>
    rw [Agent.restEach]
    dsimp only
    rw [← there]
    exact refl agent
  | cons connection others inductionHypothesis =>
    have first := serve (connection.stepBound agent.rules agent.time agent.hub.registry) agent there
    have second := inductionHypothesis { agent with
      connections := past ++ (connection.rest agent.rules agent.time false agent.hub.registry).1 ::
        others
      hub.registry := (connection.rest agent.rules agent.time false agent.hub.registry).2 }
      (List.append_cons _ _ _)
    rw [Agent.restEach]
    dsimp only at second ⊢
    rw [List.append_assoc] at second
    exact trans first second

end Reaches

/-- To come to rest is to take turns. -/
theorem reaches_rest (agent : Agent) : agent.Reaches agent.rest := by
  have collectors (tasks : List Nat) (agent : Agent) : agent.Reaches
      (tasks.foldl (fun agent task => agent.repeatStep (stepCollector? task) 3) agent) := by
    induction tasks generalizing agent with
    | nil => exact .refl agent
    | cons task others inductionHypothesis =>
      refine Reaches.trans ?_ (inductionHypothesis _)
      exact .repeatStep (.operate (.collect task)) (fun _ => rfl) 3 agent
  have loop (agent : Agent) : agent.Reaches agent.restCacheLoop :=
    .repeatStep (.operate (.act (.feed .cache))) (fun _ => rfl) _ agent
  have otherLoop (agent : Agent) : agent.Reaches agent.restBroadcastLoop :=
    .repeatStep (.operate (.act (.feed .broadcast))) (fun _ => rfl) _ agent
  have hub (agent : Agent) : agent.Reaches agent.restHub :=
    .repeatStep (.operate (.act .fanOut)) (fun _ => rfl) _ agent
  have connections (agent : Agent) : agent.Reaches agent.restConnections :=
    .restEach agent (List.nil_append _).symm
  exact ((((collectors _ agent).trans (loop _)).trans (otherLoop _)).trans (hub _)).trans
    (connections _)

/-- What is carried out at the end of an agent whose tasks have time to end is to cancel the token
above all tasks, to stop all collectors and to take turns. -/
theorem reaches_shutdown (agent : Agent) {graceSeconds : Nat} (time : graceSeconds ≠ 0) :
    agent.cancel.stopCollectors.1.Reaches (agent.shutdown graceSeconds) := by
  rw [shutdown, if_neg time]
  exact reaches_rest _

/-! ### The end -/

/-- Anything happens in an agent, the token above all tasks is cancelled, all collectors are stopped
and more happens, until no task can take a step. If the peers take all that they are sent, then no
collector is said to run that was not started since, and no pass is in progress. The loops have
ended and their mailboxes are under no topic, and any other mailbox with a receiver is under the
topics under which it was when the token was cancelled, unless it was unsubscribed. The hub has
ended, it is closed and has no client, and every connection has ended. Whatever happens from then
on, the entries of the cache that the bus feeds stay as they are, no client is given anything, and
nobody else is served. -/
theorem shutdown_is_complete (busBuffer : Nat) (rules : StreamRules) (crossOrigin : Bool)
    (cache : Cache) (clock : Clock) (before meanwhile after : List Turn) :
    let running := (fresh busBuffer rules crossOrigin cache clock).course before
    let stopped := (running.cancel.course meanwhile).stopCollectors.1
    let agent := stopped.course after
    agent.AtRest →
    (∀ connection ∈ agent.connections, connection.line.isBlocked = false) →
    (∀ name report, agent.roster.status name = .ok report → report.state = .running →
      .startCollectors ∈ after ∨ .operate (.enable name) ∈ after) ∧
    (∀ task ∈ agent.roster.tasks, task.phase.isOver = true ∧ task.phase.isActive = false) ∧
    (∀ feeder, (agent.consumer feeder).running = false ∧
      ∀ topic, (agent.consumer feeder).mailbox ∉ agent.bus.registered topic) ∧
    (∀ id < running.bus.nextId, (∀ feeder, id ≠ (agent.consumer feeder).mailbox) →
      (agent.bus.mailbox? id).isSome = true →
      (∀ topics, .operate (.act (.ask (.unsubscribe id topics))) ∉ meanwhile ++ after) →
      ∀ topic, id ∈ agent.bus.registered topic ↔ id ∈ running.bus.registered topic) ∧
    (agent.hub.running = false ∧ agent.hub.registry.closed = true ∧
      agent.hub.registry.clientCount = 0) ∧
    (∀ connection ∈ agent.connections, connection.hasReturned = true ∧
      connection.reader.running = false ∧ connection.writer.running = false) ∧
    ∀ further,
      let later := agent.course further
      later.cache.snapshots = agent.cache.snapshots ∧ agent.hub.registry.Drains later.hub.registry ∧
      later.hub.registry.closed = true ∧ later.hub.registry.clientCount = 0 ∧
      ∀ connection ∈ later.connections, connection.hasReturned = true := by
  intro running stopped agent rest accepts
  have told : running.cancel.Orderly :=
    ((Orderly.fresh busBuffer rules crossOrigin cache clock).course before).proceed
      (.operate (.act .cancel))
  have between : (running.cancel.course meanwhile).Orderly := told.course meanwhile
  have whole : agent = running.cancel.course (meanwhile ++ .stopCollectors :: after) :=
    (Machine.run_append Agent.proceed _ meanwhile (.stopCollectors :: after)).symm
  have orderly : agent.Orderly := whole ▸ told.course _
  have halted : agent.Halted := whole ▸ Halted.course ⟨rfl, rfl, rfl⟩ told.steady _
  have ended : agent.Ended := rest.ended orderly halted accepts
  have shut := orderly.steady.shut ended.hub
  refine ⟨?_, ?_, ?_, ?_, ⟨ended.hub, shut.closed, shut.clientCount_eq_zero⟩, ?_, ?_⟩
  · intro name report status reported
    have runs : agent.roster.Runs name := Roster.runs_of_status status reported
    rcases (between.proceed .stopCollectors).runs_of_course runs with still | started
    · obtain ⟨handed, sound⟩ := between.roster.sound
      exact absurd still (sound.not_runs_stopAll name)
    · exact started
  · intro task member
    have isOver := rest.isOver orderly halted task member
    exact ⟨isOver, Collector.Phase.isActive_of_isOver isOver⟩
  · intro feeder
    have left := ended.loops feeder
    exact ⟨left, (orderly.steady.wired.attached feeder).ended left⟩
  · intro id issued other alive stays topic
    have uses := told.steady.uses_course (meanwhile ++ .stopCollectors :: after)
    rw [← whole] at uses
    refine uses.mem_registered_iff told.steady.wired.sound issued ?_ ?_ ?_ topic
    · exact fun feeder => uses.mailbox feeder ▸ other feeder
    · intro gone
      rw [Option.map_eq_none_iff.mp gone] at alive
      cases alive
    · rintro topics ⟨turn, member, asks⟩
      cases asks with
      | own same =>
        subst same
        rcases List.mem_append.mp member with early | late
        · exact stays topics (List.mem_append_left _ early)
        · refine stays topics (List.mem_append_right _ ?_)
          exact (List.mem_cons.mp late).resolve_left nofun
  · intro connection member
    have returned := ended.connections connection member
    have settled := orderly.connections connection member
    exact ⟨returned, settled.reader returned, settled.writer returned⟩
  · intro further later
    obtain ⟨endedLater, spares⟩ := ended.course orderly further
    have shutLater := (orderly.course further).steady.shut endedLater.hub
    exact ⟨spares.cache, spares.clients, shutLater.closed, shutLater.clientCount_eq_zero,
      endedLater.connections⟩

/-- The shutdown strikes while a pass hangs, a message waits for both loops and a peer is served.
One loop still takes the message, and someone's mailbox stays where it was. -/
theorem shutdown_amid_everything :
    let before : List Turn := [
      .register "gpu" (Collector.Plan.ofList [⟨0, none, .hang⟩]) 1 false, .startCollectors,
      .operate (.collect 0), .operate (.collect 0), .connect true 64,
      .operate (.act (.ask (.subscribe ["disk_list_update"]))),
      .operate (.act (.ask (.publish "disk_list_update" ⟨.disks, []⟩)))]
    let after : List Turn := [.operate (.collect 0), .operate (.act (.feed .cache)),
      .operate (.act (.feed .broadcast)), .operate (.act .fanOut), .serve 0 .writer,
      .serve 0 .handler, .serve 0 (.peer false)]
    let running := (fresh 4 ⟨4, 4, 1000, 2000, 500⟩ false .empty ⟨.epoch, 0⟩).course before
    let agent :=
      (running.cancel.course [.feedHeedless .cache]).stopCollectors.1.course after
    (running.roster.tasks.any (·.phase.isActive) = true ∧ running.hub.registry.clientCount = 1) ∧
      (agent.roster.tasks.length = 1 ∧ ∀ task ∈ agent.roster.tasks, task.phase.isActive = false) ∧
      (agent.connections.length = 1 ∧
        ∀ connection ∈ agent.connections, connection.hasReturned = true) ∧
      agent.hub.registry.clientCount = 0 ∧ agent.cache.populated = ["disks"] ∧
      ∀ topic, 3 ∈ agent.bus.registered topic ↔ 3 ∈ running.bus.registered topic := by
  intro before after running agent
  have rest : agent.AtRest := by
    constructor <;> decide +kernel
  have accepts : ∀ connection ∈ agent.connections, connection.line.isBlocked = false := by
    decide +kernel
  have complete := shutdown_is_complete 4 ⟨4, 4, 1000, 2000, 500⟩ false .empty ⟨.epoch, 0⟩ before
    [.feedHeedless .cache] after rest accepts
  rw [show course (fresh ..) before = running from rfl,
    show course (stopCollectors (running.cancel.course [.feedHeedless .cache])).1 after = agent
      from rfl] at complete
  obtain ⟨-, tasks, -, kept, ⟨-, -, nobody⟩, connections, -⟩ := complete
  refine ⟨by decide +kernel, ⟨by decide +kernel, fun task member => (tasks task member).2⟩,
    ⟨by decide +kernel, fun connection member => (connections connection member).1⟩, nobody,
    by decide +kernel, ?_⟩
  refine kept 3 (by decide +kernel) (fun feeder => ?_) (by decide +kernel) fun topics member => ?_
  · cases feeder <;> decide +kernel
  · simp [after] at member

end Agent

end ServerMonitor
