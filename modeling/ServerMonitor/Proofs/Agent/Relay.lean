/-
This file follows messages through the agent. The bus puts a message into the
mailboxes of the two loops; one loop applies it to the cache, the other hands it
to the hub, whose own loop fans it out. Each of these queues loses what is
offered to it while it is full and nothing else: as long as a mailbox is
subscribed and the hub goes on, what leaves a queue, followed by what is in it,
is what was in it at first, followed by what it had room for.
-/

import ServerMonitor.Agent.Control
import ServerMonitor.Proofs.Agent.Consumer
import ServerMonitor.Proofs.Hub.Stream

namespace ServerMonitor

/-- The loops that take messages off the bus. -/
inductive Feeder
  /-- The loop that feeds the cache. -/
  | cache
  /-- The loop that feeds the hub. -/
  | broadcast
deriving DecidableEq

def Feeder.topics : Feeder → List String
  | cache => Dispatch.standard.topics
  | broadcast => broadcastTopics

/-- The entries that a test accepted. -/
def acceptedOf {Entry : Type} (offers : List (Entry × Bool)) : List Entry :=
  offers.flatMap fun offer => if offer.2 then [offer.1] else []

/-- The entries that a test refused. -/
def refusedOf {Entry : Type} (offers : List (Entry × Bool)) : List Entry :=
  offers.flatMap fun offer => if offer.2 then [] else [offer.1]

/-- A queue that nothing leaves and nothing enters. -/
theorem queue_unmoved {Entry : Type} (queue : List Entry) (calm : Prop) :
    queue.Sublist (queue ++ []) ∧ (calm → queue = queue ++ []) := by
  rw [List.append_nil]
  exact ⟨List.Sublist.refl _, fun _ => rfl⟩

/-! ### The loop of the hub -/

/-- Whether only the loop of the hub asks this of the registry. -/
def Registry.Request.isFromHub : Registry.Request → Bool
  | fanOut _ | shutdown => true
  | _ => false

namespace Hub

/-- What the loop asks of the registry in its next step. -/
def asks? (hub : Hub) : Option Registry.Request :=
  if !hub.running then none
  else if hub.cancelled then some .shutdown
  else hub.queue.head?.map .fanOut

/-- A step does nothing, or ends the loop, or fans out the oldest event. -/
theorem step_cases (hub : Hub) :
    hub.step = hub ∧ hub.asks? = none ∨
      (hub.running = true ∧ hub.cancelled = true ∧ hub.asks? = some .shutdown ∧
        hub.step = { hub with
          registry := hub.registry.shutdown, queue := [], running := false }) ∨
      hub.running = true ∧ ∃ event rest, hub.queue = event :: rest ∧
        hub.asks? = some (.fanOut event) ∧
        hub.step = { hub with registry := (hub.registry.fanOut event).1, queue := rest } := by
  unfold step asks?
  cases running : hub.running with
  | false => exact .inl ⟨rfl, rfl⟩
  | true =>
    cases cancelled : hub.cancelled with
    | true => exact .inr (.inl ⟨rfl, rfl, rfl, rfl⟩)
    | false =>
      cases queue : hub.queue with
      | nil => exact .inl ⟨rfl, rfl⟩
      | cons event rest => exact .inr (.inr ⟨rfl, event, rest, rfl, rfl, rfl⟩)

theorem registry_step (hub : Hub) :
    hub.step.registry =
      hub.asks?.elim hub.registry fun request => (hub.registry.perform request).1 := by
  rcases hub.step_cases with ⟨waits, nothing⟩ | ⟨-, -, asks, ends⟩ | ⟨-, event, rest, -, asks, goes⟩
  · rw [waits, nothing]
    rfl
  · rw [ends, asks]
    rfl
  · rw [goes, asks]
    rfl

theorem step_of_not_ready {hub : Hub} (waits : hub.isReady = false) : hub.step = hub := by
  unfold isReady at waits
  unfold step
  cases running : hub.running with
  | false => rfl
  | true =>
    rw [running] at waits
    cases cancelled : hub.cancelled with
    | true => rw [cancelled] at waits; cases waits
    | false =>
      cases queue : hub.queue with
      | nil => rfl
      | cons event rest => rw [cancelled, queue] at waits; cases waits

/-- While the loop runs, an event is taken if there is room. -/
theorem queue_broadcast (hub : Hub) (event : Event) :
    let after := (hub.broadcast event).1
    after.queue.Sublist (hub.queue ++ [event]) ∧
      (after.running = true → after.queue =
        hub.queue ++ acceptedOf [(event, decide (hub.queue.length < hub.capacity))]) := by
  rw [broadcast]
  cases running : hub.running with
  | false => exact ⟨List.sublist_append_left _ _, fun still => by cases running.symm.trans still⟩
  | true =>
    cases decide (hub.queue.length < hub.capacity) with
    | true => exact ⟨List.Sublist.refl _, fun _ => rfl⟩
    | false => exact ⟨List.sublist_append_left _ _, fun _ => (List.append_nil _).symm⟩

end Hub

namespace Agent

open Registry (Request)

/-- The consumer that a loop is. -/
def consumer (agent : Agent) : Feeder → Consumer
  | .cache => agent.cacheLoop
  | .broadcast => agent.broadcastLoop

/-- The messages that wait for a loop. -/
def inbox (agent : Agent) (feeder : Feeder) : List Payload :=
  agent.bus.queued (agent.consumer feeder).mailbox

/-! ### Actions -/

inductive Action
  /-- The bus is asked for something, by a publisher or the holder of another mailbox. -/
  | ask (request : Bus.Request Payload)
  /-- A loop takes a step, if it can take one. -/
  | feed (feeder : Feeder)
  /-- The loop of the hub takes a step, if it can take one. -/
  | fanOut
  /-- The registry of the hub is asked for something, by a client or who speaks for one. -/
  | attend (request : Registry.Request)
  /-- The clocks of the host move on. -/
  | tick (clock : Clock)
  /-- The token above all tasks is cancelled. -/
  | cancel
  /-- The token of the hub is cancelled. -/
  | cancelHub

/-- What an action does to the agent, and what it asks of the registry of the hub. Nobody but the
loops receives from their mailboxes, and nobody but its loop has the hub fan out or shut down. -/
def act : Machine Agent Action (Option Request)
  | agent, .ask request =>
    if request.receiver? = some agent.cacheLoop.mailbox ∨
        request.receiver? = some agent.broadcastLoop.mailbox then
      (agent, none)
    else ({ agent with bus := (agent.bus.perform request).1 }, none)
  | agent, .feed .cache => (agent.stepCacheLoop?.getD agent, none)
  | agent, .feed .broadcast => (agent.stepBroadcastLoop?.getD agent, none)
  | agent, .fanOut => (agent.stepHub?.getD agent, agent.hub.asks?)
  | agent, .attend request =>
    if request.isFromHub then (agent, none)
    else
      ({ agent with hub.registry := (agent.hub.registry.perform request).1 }, some request)
  | agent, .tick clock => ({ agent with clock }, none)
  | agent, .cancel => (agent.cancel, none)
  | agent, .cancelHub => ({ agent with hub := agent.hub.cancel }, none)

/-- What a loop does in its next step. -/
def feederStep (agent : Agent) (feeder : Feeder) : (Consumer × Bus Payload) × Option Payload :=
  (agent.consumer feeder).advance agent.cancelled agent.bus

theorem act_feed_cache (agent : Agent) :
    (agent.act (.feed .cache)).1 = { agent with
      cacheLoop := (agent.feederStep .cache).1.1
      bus := (agent.feederStep .cache).1.2
      cache := (agent.feederStep .cache).2.elim agent.cache fun payload =>
        (Dispatch.standard.apply payload agent.cache).1 } := by
  show agent.stepCacheLoop?.getD agent = _
  unfold stepCacheLoop? feederStep Consumer.advance consumer
  cases agent.cacheLoop.step? agent.cancelled agent.bus <;> rfl

theorem act_feed_broadcast (agent : Agent) :
    (agent.act (.feed .broadcast)).1 = { agent with
      broadcastLoop := (agent.feederStep .broadcast).1.1
      bus := (agent.feederStep .broadcast).1.2
      hub := (agent.feederStep .broadcast).2.elim agent.hub fun payload =>
        (agent.hub.broadcast ⟨payload, agent.clock.instant⟩).1 } := by
  show agent.stepBroadcastLoop?.getD agent = _
  unfold stepBroadcastLoop? feederStep Consumer.advance consumer
  cases agent.broadcastLoop.step? agent.cancelled agent.bus <;> rfl

theorem act_fanOut (agent : Agent) :
    (agent.act .fanOut).1 = { agent with hub := agent.hub.step } := by
  show agent.stepHub?.getD agent = _
  unfold stepHub?
  cases ready : agent.hub.isReady with
  | true => rfl
  | false => rw [Hub.step_of_not_ready ready]; rfl

theorem bus_feed (agent : Agent) (feeder : Feeder) :
    (agent.act (.feed feeder)).1.bus = (agent.feederStep feeder).1.2 := by
  cases feeder with
  | cache => rw [act_feed_cache]
  | broadcast => rw [act_feed_broadcast]

theorem consumer_feed (agent : Agent) (feeder other : Feeder) :
    (agent.act (.feed feeder)).1.consumer other =
      if other = feeder then (agent.feederStep feeder).1.1 else agent.consumer other := by
  cases feeder with
  | cache => rw [act_feed_cache]; cases other <;> rfl
  | broadcast => rw [act_feed_broadcast]; cases other <;> rfl

theorem registry_act (agent : Agent) (action : Action) :
    (agent.act action).1.hub.registry = (agent.act action).2.elim agent.hub.registry fun request =>
      (agent.hub.registry.perform request).1 := by
  cases action with
  | ask request => rw [act]; split <;> rfl
  | feed feeder =>
    cases feeder with
    | cache => rw [act_feed_cache]; rfl
    | broadcast =>
      rw [act_feed_broadcast]
      show ((agent.feederStep .broadcast).2.elim agent.hub _).registry = agent.hub.registry
      cases (agent.feederStep .broadcast).2 with
      | none => rfl
      | some payload => rw [Option.elim_some, Hub.broadcast]; split <;> rfl
  | fanOut => rw [act_fanOut]; exact agent.hub.registry_step
  | attend request => rw [act]; split <;> rfl
  | _ => rfl

/-! ### Wiring -/

/-- What a loop takes. -/
def fed (feeder : Feeder) (agent : Agent) : Action → List Payload
  | .feed other => if other = feeder then (agent.feederStep feeder).2.toList else []
  | _ => []

/-- The message that an action publishes on a topic of a loop. -/
def Action.published (feeder : Feeder) : Action → List Payload
  | ask (.publish topic payload) => if topic ∈ feeder.topics then [payload] else []
  | _ => []

/-- How the loops hang on the bus, whatever has happened: each has a mailbox of its own. The loop of
the hub ends only when it is cancelled. -/
structure Wired (agent : Agent) : Prop where
  sound : agent.bus.Sound
  attached : ∀ feeder, (agent.consumer feeder).Attached feeder.topics agent.bus
  apart : ∀ feeder other, feeder ≠ other →
    (agent.consumer feeder).mailbox ≠ (agent.consumer other).mailbox
  hub : agent.hub.running = false → agent.hub.cancelled = true

/-- The mailbox of a loop is under all topics of the loop. -/
def Subscribed (feeder : Feeder) (agent : Agent) : Prop :=
  ∀ topic ∈ feeder.topics, (agent.consumer feeder).mailbox ∈ agent.bus.registered topic

/-- Requests that use the receiver of a loop's mailbox are not carried out. -/
theorem act_ask (agent : Agent) (request : Bus.Request Payload) :
    (∃ feeder, request.receiver? = some (agent.consumer feeder).mailbox) ∧
        agent.act (.ask request) = (agent, none) ∨
      (∀ feeder, request.receiver? ≠ some (agent.consumer feeder).mailbox) ∧
        agent.act (.ask request) = ({ agent with bus := (agent.bus.perform request).1 }, none) := by
  by_cases owned : request.receiver? = some agent.cacheLoop.mailbox ∨
      request.receiver? = some agent.broadcastLoop.mailbox
  · refine .inl ⟨?_, if_pos owned⟩
    exact owned.elim (fun own => ⟨.cache, own⟩) fun own => ⟨.broadcast, own⟩
  · refine .inr ⟨fun feeder own => owned ?_, if_neg owned⟩
    cases feeder with
    | cache => exact .inl own
    | broadcast => exact .inr own

/-- An action is a request to the bus or a step of a loop, or leaves the bus and the loops alone. -/
theorem action_cases (agent : Agent) (action : Action) :
    (∃ request, action = .ask request) ∨ (∃ feeder, action = .feed feeder) ∨
      (agent.act action).1.bus = agent.bus ∧ (agent.act action).1.consumer = agent.consumer ∧
        ∀ feeder, agent.fed feeder action = [] ∧ action.published feeder = [] := by
  cases action with
  | ask request => exact .inl ⟨request, rfl⟩
  | feed feeder => exact .inr (.inl ⟨feeder, rfl⟩)
  | fanOut => rw [act_fanOut]; exact .inr (.inr ⟨rfl, rfl, fun _ => ⟨rfl, rfl⟩⟩)
  | attend request => rw [act]; split <;> exact .inr (.inr ⟨rfl, rfl, fun _ => ⟨rfl, rfl⟩⟩)
  | tick clock => exact .inr (.inr ⟨rfl, rfl, fun _ => ⟨rfl, rfl⟩⟩)
  | cancel => exact .inr (.inr ⟨rfl, rfl, fun _ => ⟨rfl, rfl⟩⟩)
  | cancelHub => exact .inr (.inr ⟨rfl, rfl, fun _ => ⟨rfl, rfl⟩⟩)

/-- The loop of the hub goes on until it is cancelled. -/
theorem hub_act {agent : Agent}
    (hub : agent.hub.running = false → agent.hub.cancelled = true) (action : Action) :
    ((agent.act action).1.hub.running = false → (agent.act action).1.hub.cancelled = true) ∧
      ((agent.act action).1.hub.running = true → agent.hub.running = true) ∧
      ((agent.act action).1.hub.cancelled = false → agent.hub.cancelled = false) := by
  cases action with
  | ask request => rw [act]; split <;> exact ⟨hub, id, id⟩
  | feed feeder =>
    cases feeder with
    | cache => rw [act_feed_cache]; exact ⟨hub, id, id⟩
    | broadcast =>
      rw [act_feed_broadcast]
      dsimp only
      cases (agent.feederStep .broadcast).2 with
      | none => exact ⟨hub, id, id⟩
      | some payload => rw [Option.elim_some, Hub.broadcast]; split <;> exact ⟨hub, id, id⟩
  | fanOut =>
    rw [act_fanOut]
    dsimp only
    rcases agent.hub.step_cases with ⟨waits, -⟩ | ⟨running, cancelled, -, ends⟩ |
      ⟨running, event, rest, -, -, goes⟩
    · rw [waits]
      exact ⟨hub, id, id⟩
    · rw [ends]
      exact ⟨fun _ => cancelled, fun _ => running, id⟩
    · rw [goes]
      exact ⟨hub, id, id⟩
  | attend request => rw [act]; split <;> exact ⟨hub, id, id⟩
  | cancel => exact ⟨fun _ => rfl, id, nofun⟩
  | cancelHub => exact ⟨fun _ => rfl, id, nofun⟩
  | tick clock => exact ⟨hub, id, id⟩

namespace Wired

variable {agent : Agent}

/-- A step of one loop does not touch the mailbox of the other. -/
theorem inbox_feed_other (wired : agent.Wired) {feeder other : Feeder} (apart : other ≠ feeder) :
    (agent.act (.feed feeder)).1.inbox other = agent.inbox other := by
  rw [inbox, consumer_feed, if_neg apart, bus_feed]
  exact ((wired.attached feeder).advance_other wired.sound agent.cancelled (wired.attached other)
    (wired.apart feeder other (Ne.symm apart))).2

theorem mailbox_act (wired : agent.Wired) (action : Action) (feeder : Feeder) :
    ((agent.act action).1.consumer feeder).mailbox = (agent.consumer feeder).mailbox := by
  rcases agent.action_cases action with ⟨request, rfl⟩ | ⟨other, rfl⟩ | ⟨-, consumer, -⟩
  · rcases agent.act_ask request with ⟨-, nothing⟩ | ⟨-, asked⟩
    · rw [nothing]
    · rw [asked]
      rfl
  · rw [consumer_feed]
    split
    · rename_i same
      subst same
      exact (wired.attached feeder).mailbox_advance agent.cancelled
    · rfl
  · rw [consumer]

theorem sound_act (wired : agent.Wired) (action : Action) : (agent.act action).1.bus.Sound := by
  rcases agent.action_cases action with ⟨request, rfl⟩ | ⟨feeder, rfl⟩ | ⟨bus, -, -⟩
  · rcases agent.act_ask request with ⟨-, nothing⟩ | ⟨-, asked⟩
    · rw [nothing]
      exact wired.sound
    · rw [asked]
      exact wired.sound.perform request
  · rw [bus_feed]
    exact (wired.attached feeder).sound_advance wired.sound agent.cancelled
  · rw [bus]
    exact wired.sound

theorem attached_act (wired : agent.Wired) (action : Action) (feeder : Feeder) :
    ((agent.act action).1.consumer feeder).Attached feeder.topics (agent.act action).1.bus := by
  rcases agent.action_cases action with ⟨request, rfl⟩ | ⟨other, rfl⟩ | ⟨bus, consumer, -⟩
  · rcases agent.act_ask request with ⟨-, nothing⟩ | ⟨foreign, asked⟩
    · rw [nothing]
      exact wired.attached feeder
    · rw [asked]
      exact (wired.attached feeder).perform wired.sound (foreign feeder)
  · rw [bus_feed, consumer_feed]
    split
    · rename_i same
      subst same
      exact (wired.attached feeder).advance wired.sound agent.cancelled
    · rename_i different
      exact ((wired.attached other).advance_other wired.sound agent.cancelled
        (wired.attached feeder) (wired.apart other feeder (Ne.symm different))).1
  · rw [bus, consumer]
    exact wired.attached feeder

theorem act (wired : agent.Wired) (action : Action) : (agent.act action).1.Wired where
  sound := wired.sound_act action
  attached := wired.attached_act action
  apart feeder other apart := by
    rw [wired.mailbox_act, wired.mailbox_act]
    exact wired.apart feeder other apart
  hub := (hub_act wired.hub action).1

/-- A mailbox that is subscribed was so before. -/
theorem subscribed_of_act (wired : agent.Wired) {action : Action} {feeder : Feeder}
    (subscribed : (agent.act action).1.Subscribed feeder) : agent.Subscribed feeder := by
  intro topic listed
  have registered := subscribed topic listed
  rw [wired.mailbox_act] at registered
  rcases agent.action_cases action with ⟨request, rfl⟩ | ⟨other, rfl⟩ | ⟨bus, -, -⟩
  · rcases agent.act_ask request with ⟨-, nothing⟩ | ⟨-, asked⟩
    · rwa [nothing] at registered
    · rw [asked] at registered
      exact wired.sound.mem_registered_of_perform (wired.attached feeder).issued registered
  · rw [bus_feed] at registered
    exact (wired.attached other).mem_registered_of_advance wired.sound registered
  · rwa [bus] at registered

end Wired

/-! ### The queues of the loops -/

/-- The message that an action publishes on a topic of a loop, and whether the mailbox of the loop
has room for it. -/
def offers (feeder : Feeder) (agent : Agent) (action : Action) : List (Payload × Bool) :=
  (action.published feeder).map fun payload =>
    (payload, decide ((agent.inbox feeder).length < agent.bus.capacity))

namespace Wired

variable {agent : Agent}

/-- What a request puts into a mailbox was published on a topic of the loop. -/
theorem admitted_sublist (wired : agent.Wired) (request : Bus.Request Payload) (feeder : Feeder) :
    (agent.bus.admitted (agent.consumer feeder).mailbox request).Sublist
      ((Action.ask request).published feeder) := by
  cases request with
  | publish topic payload =>
    rw [Bus.admitted]
    split
    · rename_i taken
      rw [Action.published, if_pos ((wired.attached feeder).wanted topic taken.1)]
    · exact List.nil_sublist _
  | _ => exact List.nil_sublist _

/-- What is put into a subscribed mailbox is what it has room for. -/
theorem admitted_eq (wired : agent.Wired) {feeder : Feeder} (subscribed : agent.Subscribed feeder)
    (request : Bus.Request Payload) :
    agent.bus.admitted (agent.consumer feeder).mailbox request =
      acceptedOf (agent.offers feeder (.ask request)) := by
  have attached := wired.attached feeder
  cases request with
  | publish topic payload =>
    rw [offers, Action.published]
    by_cases listed : topic ∈ feeder.topics
    · have registered := subscribed topic listed
      rw [attached.admitted_publish (attached.running_of_registered registered) registered,
        if_pos listed]
      show _ = acceptedOf [(payload, decide ((agent.bus.queued _).length < _))]
      split
      · rename_i room
        rw [decide_eq_true room]
        rfl
      · rename_i full
        rw [decide_eq_false full]
        rfl
    · rw [if_neg listed, Bus.admitted, if_neg fun taken => listed (attached.wanted topic taken.1)]
      rfl
  | _ => rfl

/-- What a loop takes leaves its mailbox, and what the mailbox has room for enters it. Only a loop
that ends loses what is there. -/
theorem fed_append_inbox (wired : agent.Wired) (action : Action) (feeder : Feeder) :
    let after := (agent.act action).1
    (agent.fed feeder action ++ after.inbox feeder).Sublist
        (agent.inbox feeder ++ action.published feeder) ∧
      (after.Subscribed feeder → agent.fed feeder action ++ after.inbox feeder =
        agent.inbox feeder ++ acceptedOf (agent.offers feeder action)) := by
  intro after
  rcases agent.action_cases action with ⟨request, rfl⟩ | ⟨other, rfl⟩ | ⟨bus, consumer, nothing⟩
  · rcases agent.act_ask request with ⟨⟨owner, own⟩, nothing⟩ | ⟨foreign, asked⟩
    · rw [show after = agent from congrArg Prod.fst nothing]
      cases request with
      | receive id | drop id => exact queue_unmoved _ _
      | _ => cases own
    · have put : after.inbox feeder = agent.inbox feeder ++
          agent.bus.admitted (agent.consumer feeder).mailbox request := by
        rw [show after = _ from congrArg Prod.fst asked]
        exact (wired.attached feeder).queued_perform wired.sound (foreign feeder)
      rw [put]
      refine ⟨(wired.admitted_sublist request feeder).append_left _, fun subscribed => ?_⟩
      rw [wired.admitted_eq (wired.subscribed_of_act subscribed)]
      rfl
  · show (_ : List Payload).Sublist (_ ++ []) ∧ (_ → _ = _ ++ [])
    rw [List.append_nil, fed]
    by_cases same : other = feeder
    · subst same
      have taken := (wired.attached other).taken_append_queued agent.cancelled
      rw [if_pos rfl, inbox, consumer_feed, if_pos rfl, bus_feed, feederStep,
        (wired.attached other).mailbox_advance]
      refine ⟨taken.1, fun subscribed => taken.2 ?_⟩
      have registered := subscribed Kind.host.topic (by cases other <;> decide)
      have running := (wired.attached_act _ other).running_of_registered registered
      rwa [consumer_feed, if_pos rfl] at running
    · rw [if_neg same, wired.inbox_feed_other (Ne.symm same)]
      exact ⟨List.Sublist.refl _, fun _ => rfl⟩
  · have same : after.inbox feeder = agent.inbox feeder := by
      rw [inbox, bus, consumer, inbox]
    obtain ⟨nothingFed, nothingPublished⟩ := nothing feeder
    rw [same, offers, nothingFed, nothingPublished]
    exact queue_unmoved _ _

end Wired

/-! ### The queue of the hub -/

/-- The events that the loop of the hub fans out. -/
def fanned (agent : Agent) (action : Action) : List Event :=
  (agent.act action).2.toList.flatMap Request.fanned

/-- The event that is made of what the loop takes, and whether the hub has room for it. -/
def handoffs (agent : Agent) (action : Action) : List (Event × Bool) :=
  (agent.fed .broadcast action).map fun payload =>
    (⟨payload, agent.clock.instant⟩, decide (agent.hub.queue.length < agent.hub.capacity))

/-- What is fanned out leaves the queue, and what the queue has room for enters it. Only a loop that
ends loses what is there. -/
theorem fanned_append_queue (agent : Agent) (action : Action) :
    let after := (agent.act action).1
    (agent.fanned action ++ after.hub.queue).Sublist
        (agent.hub.queue ++ (agent.handoffs action).map Prod.fst) ∧
      (after.hub.running = true → agent.fanned action ++ after.hub.queue =
        agent.hub.queue ++ acceptedOf (agent.handoffs action)) := by
  intro after
  have unmoved (same : after.hub.queue = agent.hub.queue) (noEvent : agent.fanned action = [])
      (nothing : agent.fed .broadcast action = []) :
      (agent.fanned action ++ after.hub.queue).Sublist
          (agent.hub.queue ++ (agent.handoffs action).map Prod.fst) ∧
        (after.hub.running = true → agent.fanned action ++ after.hub.queue =
          agent.hub.queue ++ acceptedOf (agent.handoffs action)) := by
    rw [same, noEvent, handoffs, nothing]
    exact queue_unmoved _ _
  cases action with
  | ask request =>
    rcases agent.act_ask request with ⟨-, act⟩ | ⟨-, act⟩ <;>
      exact unmoved (congrArg (·.1.hub.queue) act)
        (congrArg (·.2.toList.flatMap Request.fanned) act) rfl
  | feed feeder =>
    cases feeder with
    | cache => exact unmoved (congrArg (·.hub.queue) agent.act_feed_cache) rfl rfl
    | broadcast =>
      have fed : agent.fed .broadcast (.feed .broadcast) =
          (agent.feederStep .broadcast).2.toList := by rw [Agent.fed, if_pos rfl]
      rw [show after.hub = _ from congrArg (·.hub) agent.act_feed_broadcast, handoffs, fed]
      cases (agent.feederStep .broadcast).2 with
      | none =>
        exact queue_unmoved _ _
      | some payload =>
        exact agent.hub.queue_broadcast ⟨payload, agent.clock.instant⟩
  | fanOut =>
    have hub : after.hub = agent.hub.step := congrArg (·.hub) agent.act_fanOut
    have events : agent.fanned .fanOut = agent.hub.asks?.toList.flatMap Request.fanned := rfl
    rcases agent.hub.step_cases with ⟨waits, asks⟩ | ⟨-, -, asks, ends⟩ |
      ⟨-, event, rest, queue, asks, goes⟩
    · exact unmoved (congrArg Hub.queue (hub.trans waits)) (by rw [events, asks]; rfl) rfl
    · rw [events, asks, hub, ends]
      exact ⟨List.nil_sublist _, nofun⟩
    · rw [events, asks, hub, goes, queue]
      exact queue_unmoved (event :: rest) _
  | attend request =>
    cases fromHub : request.isFromHub with
    | true =>
      have act : agent.act (.attend request) = (agent, none) := if_pos fromHub
      exact unmoved (congrArg (·.1.hub.queue) act)
        (congrArg (·.2.toList.flatMap Request.fanned) act) rfl
    | false =>
      have act : agent.act (.attend request) = (_, some request) := if_neg (by simp [fromHub])
      refine unmoved (congrArg (·.1.hub.queue) act)
        ((congrArg (·.2.toList.flatMap Request.fanned) act).trans ?_) rfl
      cases request with
      | fanOut event => cases fromHub
      | _ => rfl
  | tick clock => exact unmoved rfl rfl rfl
  | cancel => exact unmoved rfl rfl rfl
  | cancelHub => exact unmoved rfl rfl rfl

/-! ### Runs -/

/-- The agent after some actions. -/
def later (start : Agent) (actions : List Action) : Agent := Machine.run act start actions

/-- What was asked of the registry of the hub. -/
def asked (start : Agent) (actions : List Action) : List Request :=
  Machine.log act (fun agent action => (agent.act action).2.toList) start actions

/-- The messages that were published on the topics of a loop while its mailbox was full. -/
def refusals (feeder : Feeder) (start : Agent) (actions : List Action) : List Payload :=
  refusedOf (Machine.log act (offers feeder) start actions)

/-- The events that were made while the queue of the hub was full. -/
def hubRefusals (start : Agent) (actions : List Action) : List Event :=
  refusedOf (Machine.log act handoffs start actions)

section Runs

variable {start : Agent} (actions : List Action)

theorem later_append (start : Agent) (past future : List Action) :
    start.later (past ++ future) = (start.later past).later future :=
  Machine.run_append act start past future

theorem registry_later (start : Agent) :
    (start.later actions).hub.registry =
      Machine.run Registry.perform start.hub.registry (start.asked actions) :=
  Machine.run_within act Registry.perform (·.hub.registry)
    (fun agent action => (agent.act action).2) registry_act start actions

theorem fanned_log (start : Agent) :
    Machine.log act fanned start actions = (start.asked actions).flatMap Request.fanned :=
  (Machine.flatMap_log act _ Request.fanned start actions).symm

theorem offers_log (feeder : Feeder) (start : Agent) :
    (Machine.log act (offers feeder) start actions).map Prod.fst =
      actions.flatMap (·.published feeder) := by
  rw [Machine.map_log, ← Machine.log_const act _ start]
  simp only [offers, List.map_map, Function.comp_def, List.map_id']

theorem handoffs_log (start : Agent) :
    (Machine.log act handoffs start actions).map (·.1.payload) =
      Machine.log act (fed .broadcast) start actions := by
  rw [Machine.map_log]
  simp only [handoffs, List.map_map, Function.comp_def, List.map_id']

/-- The loop of the hub has not ended if it was not cancelled. -/
theorem hub_later (hub : start.hub.running = false → start.hub.cancelled = true)
    (calm : (start.later actions).hub.cancelled = false) :
    (start.later actions).hub.running = true := by
  have kept : (start.later actions).hub.running = false →
      (start.later actions).hub.cancelled = true :=
    Machine.run_invariant act (fun agent => agent.hub.running = false → agent.hub.cancelled = true)
      (fun agent action hub => (hub_act hub action).1) hub actions
  cases running : (start.later actions).hub.running with
  | true => rfl
  | false => cases calm.symm.trans (kept running)

/-- What was fanned out, followed by what waits for it, is what waited for it at first, followed by
what the hub had room for. -/
theorem fanned_log_append_queue (hub : start.hub.running = false → start.hub.cancelled = true)
    (running : (start.later actions).hub.running = true) :
    Machine.log act fanned start actions ++ (start.later actions).hub.queue =
      start.hub.queue ++ acceptedOf (Machine.log act handoffs start actions) := by
  rw [acceptedOf, Machine.flatMap_log]
  exact Machine.log_append_eq act fanned (·.hub.queue) _
    (fun agent => agent.hub.running = false → agent.hub.cancelled = true)
    (fun agent action hub => (hub_act hub action).1) (fun agent => agent.hub.running = true)
    (fun agent action hub => (hub_act hub action).2.1)
    (fun agent action _ => (agent.fanned_append_queue action).2) hub actions running

namespace Wired

variable (wired : start.Wired)

include wired

theorem later : (start.later actions).Wired :=
  Machine.run_invariant Agent.act Wired (fun _ action wired => wired.act action) wired actions

/-- What a subscribed loop took, followed by what waits for it, is what waited for it at first,
followed by what its mailbox had room for. -/
theorem fed_log_append_inbox {feeder : Feeder}
    (subscribed : (start.later actions).Subscribed feeder) :
    Machine.log Agent.act (fed feeder) start actions ++ (start.later actions).inbox feeder =
      start.inbox feeder ++ acceptedOf (Machine.log Agent.act (offers feeder) start actions) := by
  rw [acceptedOf, Machine.flatMap_log]
  exact Machine.log_append_eq Agent.act (fed feeder) (·.inbox feeder) _ Wired
    (fun _ action wired => wired.act action) (Subscribed feeder)
    (fun _ _ wired => wired.subscribed_of_act)
    (fun _ action wired => (wired.fed_append_inbox action feeder).2) wired actions subscribed

/-- Whatever happens, what is fanned out was published on a broadcast topic, in that order. -/
theorem fanned_sublist :
    ((Machine.log Agent.act fanned start actions).map (·.payload)).Sublist
      (start.hub.queue.map (·.payload) ++ start.inbox .broadcast ++
        actions.flatMap (·.published .broadcast)) := by
  have taken : (Machine.log Agent.act (fed .broadcast) start actions).Sublist
      (start.inbox .broadcast ++ actions.flatMap (·.published .broadcast)) := by
    have sublist := Machine.log_append_sublist Agent.act (fed .broadcast) (·.inbox .broadcast)
      (fun _ => Action.published .broadcast) Wired (fun _ action wired => wired.act action)
      (fun _ action wired => (wired.fed_append_inbox action .broadcast).1) wired actions
    rw [Machine.log_const] at sublist
    exact (List.sublist_append_left _ _).trans sublist
  have fannedOut : (Machine.log Agent.act fanned start actions).Sublist
      (start.hub.queue ++ (Machine.log Agent.act handoffs start actions).map Prod.fst) := by
    rw [Machine.map_log]
    exact (List.sublist_append_left _ _).trans (Machine.log_append_sublist Agent.act fanned
      (·.hub.queue) _ (fun _ => True) (fun _ _ _ => trivial)
      (fun agent action _ => (agent.fanned_append_queue action).1) trivial actions)
  have payloads := fannedOut.map (·.payload)
  rw [List.map_append, List.map_map, Function.comp_def, handoffs_log] at payloads
  rw [List.append_assoc]
  exact payloads.trans (taken.append_left _)

end Wired

end Runs

/-! ### The start -/

/-- The loops of an agent that is assembled are subscribed, and nothing waits for them. -/
theorem wired_subscribe {agent : Agent} (sound : agent.bus.Sound)
    (hub : agent.hub.running = false → agent.hub.cancelled = true) :
    agent.subscribe.Wired ∧ ∀ feeder,
      agent.subscribe.Subscribed feeder ∧ agent.subscribe.inbox feeder = [] := by
  have soundCache := sound.subscribe Dispatch.standard.topics
  obtain ⟨cacheAttached, cacheEmpty, cacheRegistered⟩ :=
    Consumer.Attached.start sound Dispatch.standard.topics
  obtain ⟨broadcastAttached, broadcastEmpty, broadcastRegistered⟩ :=
    Consumer.Attached.start soundCache broadcastTopics
  -- The second subscription is a request that does not concern the first mailbox.
  have foreign : (Bus.Request.subscribe broadcastTopics : Bus.Request Payload).receiver? ≠
      some agent.bus.nextId := nofun
  have attached := cacheAttached.perform soundCache foreign
  have empty := cacheAttached.queued_perform soundCache foreign
  have apart : agent.bus.nextId ≠ agent.bus.nextId + 1 := Nat.ne_of_lt (Nat.lt_succ_self _)
  refine ⟨⟨soundCache.subscribe broadcastTopics, fun feeder => ?_, fun feeder other different => ?_,
    hub⟩, fun feeder => ?_⟩
  · cases feeder with
    | cache => exact attached
    | broadcast => exact broadcastAttached
  · cases feeder with
    | cache =>
      cases other with
      | cache => exact absurd rfl different
      | broadcast => exact apart
    | broadcast =>
      cases other with
      | cache => exact apart.symm
      | broadcast => exact absurd rfl different
  · cases feeder with
    | broadcast => exact ⟨broadcastRegistered, broadcastEmpty⟩
    | cache =>
      refine ⟨fun topic listed => ?_, ?_⟩
      · show agent.bus.nextId ∈ ((agent.bus.subscribe Dispatch.standard.topics).1.subscribe
          broadcastTopics).1.registered topic
        rw [soundCache.registered_subscribe]
        split
        · exact List.mem_append_left _ (cacheRegistered topic listed)
        · exact cacheRegistered topic listed
      · refine empty.trans ?_
        rw [cacheEmpty]
        rfl

end Agent

end ServerMonitor
