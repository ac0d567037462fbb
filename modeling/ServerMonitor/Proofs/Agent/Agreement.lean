/-
This file compares the two ends of the agent. The cache and the clients are fed by
two loops with mailboxes of their own, which go at different speeds. When no queue
refused a message and all loops wait, both have taken the same publications in the
same order: what a client was sent tells what the cache holds.
-/

import ServerMonitor.Proofs.Agent.Audience
import ServerMonitor.Proofs.Cache.Loop

namespace ServerMonitor

open Registry (Request)

/-! ### The cache -/

namespace Agent

/-- The entries change only by what the loop takes. -/
theorem find?_act (agent : Agent) (action : Action) {kind : Kind}
    (cached : kind ≠ .collectorState) :
    (agent.act action).1.cache.find? kind =
      (((agent.fed .cache action).filterMap (·.valueOf? kind)).getLast?).or
        (agent.cache.find? kind) := by
  cases action with
  | ask request => rw [act]; split <;> rfl
  | feed feeder =>
    cases feeder with
    | cache =>
      rw [act_feed_cache, fed, if_pos rfl]
      show Cache.find? ((agent.feederStep .cache).2.elim _ _) kind = _
      cases (agent.feederStep .cache).2 with
      | none => rfl
      | some payload =>
        refine (Dispatch.find?_apply_standard payload agent.cache cached).trans ?_
        rw [Option.toList_some, List.filterMap_cons]
        cases payload.valueOf? kind <;> rfl
    | broadcast => rw [act_feed_broadcast]; rfl
  | fanOut => rw [act_fanOut]; rfl
  | attend request => rw [act]; split <;> rfl
  | _ => rfl

theorem find?_later (start : Agent) (actions : List Action) {kind : Kind}
    (cached : kind ≠ .collectorState) :
    (start.later actions).cache.find? kind =
      (((Machine.log act (fed .cache) start actions).filterMap (·.valueOf? kind)).getLast?).or
        (start.cache.find? kind) := by
  induction actions using List.reverseRecOn with
  | nil => rfl
  | append_singleton past action inductionHypothesis =>
    rw [later, Machine.run_concat, Machine.log_concat, List.filterMap_append, List.getLast?_append,
      Option.or_assoc, ← inductionHypothesis]
    exact find?_act (start.later past) action cached

/-! ### Publications -/

/-- The topic and the message of an action that publishes. -/
def Action.publication : Action → List (String × Payload)
  | ask (.publish topic payload) => [(topic, payload)]
  | _ => []

/-- An action publishes at most a message on the topic of its kind. -/
def Action.IsTyped (action : Action) : Prop :=
  ∀ topic payload, action = ask (.publish topic payload) → topic = payload.kind.topic

theorem topic_mem_broadcast (kind : Kind) : kind.topic ∈ Feeder.broadcast.topics := by
  cases kind <;> decide

theorem topic_mem_cache {kind : Kind} (cached : kind ∈ Kind.cached) :
    kind.topic ∈ Feeder.cache.topics := by
  cases kind <;> first | decide | exact absurd cached (by decide)

theorem publication_eq {action : Action} (typed : action.IsTyped) :
    action.publication =
      (action.published .broadcast).map fun payload => (payload.kind.topic, payload) := by
  cases action with
  | ask request =>
    cases request with
    | publish topic payload =>
      obtain rfl := typed topic payload rfl
      rw [Action.published, if_pos (topic_mem_broadcast payload.kind)]
      rfl
    | _ => rfl
  | _ => rfl

theorem flatMap_publication {actions : List Action} (typed : ∀ action ∈ actions, action.IsTyped) :
    actions.flatMap Action.publication =
      (actions.flatMap (·.published .broadcast)).map fun payload =>
        (payload.kind.topic, payload) := by
  rw [List.map_flatMap]
  exact List.flatMap_congr fun action member => publication_eq (typed action member)

/-- Both loops get the messages of a kind that the cache keeps. -/
theorem filterMap_published {action : Action} (typed : action.IsTyped) {kind : Kind}
    (cached : kind ∈ Kind.cached) :
    (action.published .cache).filterMap (·.valueOf? kind) =
      (action.published .broadcast).filterMap (·.valueOf? kind) := by
  cases action with
  | ask request =>
    cases request with
    | publish topic payload =>
      obtain rfl := typed topic payload rfl
      rw [Action.published, Action.published, if_pos (topic_mem_broadcast payload.kind)]
      by_cases same : payload.kind = kind
      · rw [if_pos (same ▸ topic_mem_cache cached)]
      · rw [List.filterMap_cons, Payload.valueOf?_eq_none same]
        split
        · rw [List.filterMap_cons, Payload.valueOf?_eq_none same]
        · rfl
    | _ => rfl
  | _ => rfl

theorem filterMap_flatMap_published {actions : List Action}
    (typed : ∀ action ∈ actions, action.IsTyped) {kind : Kind} (cached : kind ∈ Kind.cached) :
    (actions.flatMap (·.published .cache)).filterMap (·.valueOf? kind) =
      (actions.flatMap (·.published .broadcast)).filterMap (·.valueOf? kind) := by
  rw [List.filterMap_flatMap, List.filterMap_flatMap]
  exact List.flatMap_congr fun action member => filterMap_published (typed action member) cached

/-! ### Quiet runs -/

/-- Nothing was cancelled or unsubscribed, and no queue between the bus and the registry refused a
message. -/
structure Undisturbed (start : Agent) (actions : List Action) : Prop where
  calm : (start.later actions).hub.cancelled = false
  subscribed : ∀ feeder, (start.later actions).Subscribed feeder
  accepted : ∀ feeder, start.refusals feeder actions = []
  handedOver : start.hubRefusals actions = []

/-- No loop can take a step. -/
structure Waits (agent : Agent) : Prop where
  cacheLoop : agent.stepCacheLoop? = none
  broadcastLoop : agent.stepBroadcastLoop? = none
  hub : agent.stepHub? = none

theorem acceptedOf_of_refusedOf_eq_nil {Entry : Type} {offers : List (Entry × Bool)}
    (none : refusedOf offers = []) : acceptedOf offers = offers.map Prod.fst := by
  induction offers with
  | nil => rfl
  | cons offer rest inductionHypothesis =>
    obtain ⟨entry, accepted⟩ := offer
    cases accepted with
    | true => exact congrArg (entry :: ·) (inductionHypothesis none)
    | false => cases none

theorem Waits.inbox {agent : Agent} (waits : agent.Waits) (wired : agent.Wired) {feeder : Feeder}
    (subscribed : agent.Subscribed feeder) : agent.inbox feeder = [] := by
  cases feeder with
  | cache =>
    have idle : agent.cacheLoop.step? agent.cancelled agent.bus = none :=
      Option.map_eq_none_iff.mp waits.cacheLoop
    exact (wired.attached .cache).queued_of_step?_eq_none
      (subscribed Kind.host.topic (by decide)) idle
  | broadcast =>
    have idle : agent.broadcastLoop.step? agent.cancelled agent.bus = none :=
      Option.map_eq_none_iff.mp waits.broadcastLoop
    exact (wired.attached .broadcast).queued_of_step?_eq_none
      (subscribed Kind.host.topic (by decide)) idle

theorem Waits.hubQueue {agent : Agent} (waits : agent.Waits) (running : agent.hub.running = true) :
    agent.hub.queue = [] := by
  have ready := waits.hub
  rw [stepHub?] at ready
  split at ready
  · cases ready
  · rename_i idle
    unfold Hub.isReady at idle
    rw [running] at idle
    cases queue : agent.hub.queue with
    | nil => rfl
    | cons event rest => exact absurd (by simp [queue]) idle

section Quiet

variable {start : Agent} {actions : List Action} (wired : start.Wired)
  (undisturbed : start.Undisturbed actions) (waits : (start.later actions).Waits)

include wired undisturbed waits

/-- Each loop took all that was published on its topics. -/
theorem log_fed_of_quiet {feeder : Feeder} (empty : start.inbox feeder = []) :
    Machine.log act (fed feeder) start actions = actions.flatMap (·.published feeder) := by
  have subscribed := undisturbed.subscribed feeder
  have moved := wired.fed_log_append_inbox actions subscribed
  rwa [waits.inbox (wired.later actions) subscribed, empty, List.append_nil, List.nil_append,
    acceptedOf_of_refusedOf_eq_nil (undisturbed.accepted feeder), offers_log] at moved

/-- All that was published on the broadcast topics was fanned out. -/
theorem log_fanned_of_quiet (empty : start.inbox .broadcast = []) (idle : start.hub.queue = []) :
    (Machine.log act fanned start actions).map (·.payload) =
      actions.flatMap (·.published .broadcast) := by
  have running := hub_later actions wired.hub undisturbed.calm
  have moved := fanned_log_append_queue actions wired.hub running
  rw [waits.hubQueue running, idle, List.append_nil, List.nil_append,
    acceptedOf_of_refusedOf_eq_nil undisturbed.handedOver] at moved
  rw [moved, List.map_map, ← log_fed_of_quiet wired undisturbed waits empty, ← handoffs_log]
  rfl

end Quiet

/-! ### Listening from the beginning -/

/-- A client is registered before anything is published, nobody filters it, and it is registered at
the end. -/
structure ListensThroughout (start : Agent) (past future : List Action) (id : Nat) : Prop where
  unpublished : past.flatMap Action.publication = []
  arrived : (start.later past).hub.registry.contains id = true
  unfiltered : ∀ request, .attend request ∈ past ++ future →
    Client.filterAfter id .everything request = .everything
  stays : (start.later (past ++ future)).hub.registry.contains id = true

/-- Whatever is asked of the registry comes from its own loop or from outside. -/
theorem isFromHub_or_mem_of_mem_asked {start : Agent} {actions : List Action} {request : Request}
    (member : request ∈ start.asked actions) :
    request.isFromHub = true ∨ .attend request ∈ actions := by
  obtain ⟨past, action, future, rfl, asks⟩ := Machine.exists_of_mem_log act member
  rw [Option.mem_toList] at asks
  change ((start.later past).act action).2 = some request at asks
  cases action with
  | ask other => rw [act] at asks; split at asks <;> cases asks
  | feed feeder => cases feeder <;> cases asks
  | fanOut =>
    refine .inl ?_
    change (start.later past).hub.asks? = some request at asks
    rcases (start.later past).hub.step_cases with ⟨-, nothing⟩ | ⟨-, -, ends, -⟩ |
      ⟨-, event, rest, -, goes, -⟩
    · cases nothing.symm.trans asks
    · cases ends.symm.trans asks; rfl
    · cases goes.symm.trans asks; rfl
  | attend other =>
    rw [act] at asks
    split at asks
    · cases asks
    · cases asks
      exact .inr (List.mem_append_right _ List.mem_cons_self)
  | _ => cases asks

/-- If nobody outside filters an open client, nothing that is asked of the registry does. -/
theorem filterAfter_of_mem_asked {start : Agent} {actions : List Action} {id : Nat}
    (unfiltered : ∀ request, .attend request ∈ actions →
      Client.filterAfter id .everything request = .everything) :
    ∀ request ∈ start.asked actions, Client.filterAfter id .everything request = .everything := by
  intro request asked
  rcases isFromHub_or_mem_of_mem_asked asked with fromHub | attended
  · cases request <;> first | rfl | cases fromHub
  · exact unfiltered request attended

section Fresh

variable (busBuffer : Nat) (rules : StreamRules) (crossOrigin : Bool) (cache : Cache)
  (clock : Clock)

/-- Nothing is fanned out before something is published. -/
theorem log_fanned_of_unpublished {actions : List Action}
    (typed : ∀ action ∈ actions, action.IsTyped)
    (unpublished : actions.flatMap Action.publication = []) :
    Machine.log act fanned (fresh busBuffer rules crossOrigin cache clock) actions = [] := by
  obtain ⟨wired, quiet⟩ := wired_fresh busBuffer rules crossOrigin cache clock
  rw [flatMap_publication typed, List.map_eq_nil_iff] at unpublished
  have published := wired.fanned_sublist actions
  rw [(quiet .broadcast).2, unpublished] at published
  exact List.map_eq_nil_iff.mp (List.eq_nil_of_sublist_nil published)

/-- A client that nobody filtered is open. -/
theorem filter_of_unfiltered {actions : List Action} {client : Client}
    (member : client ∈
      ((fresh busBuffer rules crossOrigin cache clock).later actions).hub.registry.clients)
    (unfiltered : ∀ request, .attend request ∈ actions →
      Client.filterAfter client.id .everything request = .everything) :
    client.filter = .everything := by
  rw [registry_fresh_later] at member
  obtain ⟨early, late, requests, -, since⟩ := Registry.arrival rules.clientBuffer member
  rw [since]
  refine Client.run_filter_of_open rfl late fun request later => ?_
  have asked : request ∈ (fresh busBuffer rules crossOrigin cache clock).asked actions := by
    rw [requests]
    exact List.mem_append_right _ (List.mem_cons_of_mem _ later)
  exact filterAfter_of_mem_asked unfiltered request asked

/-- A client that listens throughout is sent all that is fanned out, and wants all of it. -/
theorem sent_of_listensThroughout {past future : List Action} {id : Nat}
    (typed : ∀ action ∈ past ++ future, action.IsTyped)
    (listens : (fresh busBuffer rules crossOrigin cache clock).ListensThroughout past future id) :
    let start := fresh busBuffer rules crossOrigin cache clock
    let actions := past ++ future
    start.sent id actions = Machine.log act fanned start actions ∧
      start.wanted id actions = Machine.log act fanned start actions := by
  intro start actions
  have silence : Machine.log act fanned start past = [] :=
    log_fanned_of_unpublished busBuffer rules crossOrigin cache clock
      (fun action member => typed action (List.mem_append_left _ member)) listens.unpublished
  obtain ⟨before, present, same⟩ : ∃ before ∈ (start.later past).hub.registry.clients,
      before.id = id := by
    obtain ⟨before, found, same⟩ := List.any_eq_true.mp listens.arrived
    exact ⟨before, List.mem_of_mem_filter found, of_decide_eq_true same⟩
  subst same
  have holds := holds_fresh_later busBuffer rules crossOrigin cache clock past present
  -- The client is open when the first message is published.
  have isOpen : before.filter = .everything :=
    filter_of_unfiltered busBuffer rules crossOrigin cache clock present fun request attended =>
      listens.unfiltered request (List.mem_append_left _ attended)
  have later := holds_later holds future
  have registered : (Machine.run (Client.perform (max rules.clientBuffer 1)) before
      ((start.later past).asked future)).isRegistered = true := by
    have stays := listens.stays
    change (start.later (past ++ future)).hub.registry.contains before.id = true at stays
    rw [later_append] at stays
    rw [← later.sound.contains_of_mem later.member, Client.run_id]
    exact stays
  have wishes : Machine.log (Client.perform (max rules.clientBuffer 1)) Client.wants before
      ((start.later past).asked future) = Machine.log act fanned (start.later past) future := by
    rw [fanned_log]
    refine Client.log_wants_of_open isOpen _ registered (filterAfter_of_mem_asked ?_)
    exact fun request attended => listens.unfiltered request (List.mem_append_right _ attended)
  have puts := Client.wanted_of_not_evicted _
    (Client.standing_ne_evicted_of_registered registered)
  rw [wishes] at puts
  rw [sent, wanted, Machine.log_append, Machine.log_append, Machine.log_append, silence,
    log_audience_of_silence
      (fun capacity client request => request.admitted_sublist_fanned capacity client) silence,
    log_audience_of_silence (fun _ client request => request.wants_sublist_fanned client) silence]
  exact ⟨(log_audience_of_holds holds future Client.admitted).trans puts.symm,
    (log_audience_of_holds holds future fun _ => Client.wants).trans wishes⟩

end Fresh

/-! ### Agreement -/

/-- Messages are published on the topics of their kinds while a client listens throughout. When
nothing was cancelled, no queue refused a message and the loops wait, the client was sent what was
published, in that order and under the names of the topics, and the cache holds the last message
of each kind that the client was sent. -/
theorem cache_agrees_with_stream (busBuffer : Nat) (rules : StreamRules) (crossOrigin : Bool)
    {cache : Cache} (blank : ∀ kind ∈ Kind.cached, cache.find? kind = none) (clock : Clock)
    (past future : List Action) (id : Nat)
    (typed : ∀ action ∈ past ++ future, action.IsTyped)
    (undisturbed : (fresh busBuffer rules crossOrigin cache clock).Undisturbed (past ++ future))
    (listens : (fresh busBuffer rules crossOrigin cache clock).ListensThroughout past future id)
    (waits : ((fresh busBuffer rules crossOrigin cache clock).later (past ++ future)).Waits) :
    let start := fresh busBuffer rules crossOrigin cache clock
    let actions := past ++ future
    let now := start.later actions
    (start.sent id actions).map (fun event => (event.name, event.payload)) =
        actions.flatMap Action.publication ∧
      (∀ client ∈ now.hub.registry.clients, client.id = id → client.listening = true →
        start.received id actions ++ client.outbox = start.sent id actions) ∧
      ∀ kind ∈ Kind.cached,
        now.cache.find? kind =
            ((start.sent id actions).filterMap (·.payload.valueOf? kind)).getLast? ∧
          (now.cache.find? kind = none ↔
            ∀ event ∈ start.sent id actions, event.payload.kind ≠ kind) := by
  intro start actions now
  obtain ⟨wired, quiet⟩ := wired_fresh busBuffer rules crossOrigin cache clock
  obtain ⟨sent, wanted⟩ := sent_of_listensThroughout busBuffer rules crossOrigin cache clock typed
    listens
  have payloads : (start.sent id actions).map (·.payload) =
      actions.flatMap (·.published .broadcast) := by
    rw [sent]
    exact log_fanned_of_quiet wired undisturbed waits (quiet .broadcast).2 rfl
  refine ⟨?_, fun client member same listening => ?_, fun kind cached => ?_⟩
  · rw [flatMap_publication typed, ← payloads, List.map_map]
    rfl
  · subst same
    have registered : client.isRegistered = true := by
      rw [← (holds_fresh_later busBuffer rules crossOrigin cache clock actions member).sound
        |>.contains_of_mem member]
      exact listens.stays
    rw [sent, ← wanted]
    change client ∈ ((fresh busBuffer rules crossOrigin cache clock).later
      actions).hub.registry.clients at member
    rw [registry_fresh_later] at member
    rw [log_received]
    refine (Registry.received_append_outbox rules.clientBuffer member listening
      (Client.standing_ne_evicted_of_registered registered)).trans ?_
    exact (log_audience start actions (fun _ => Client.wants) client.id).symm
  · have values : (start.sent id actions).filterMap (·.payload.valueOf? kind) =
        (actions.flatMap (·.published .cache)).filterMap (·.valueOf? kind) := by
      rw [filterMap_flatMap_published typed cached, ← payloads, List.filterMap_map]
      rfl
    have entry : now.cache.find? kind =
        ((start.sent id actions).filterMap (·.payload.valueOf? kind)).getLast? := by
      rw [find?_later start actions (ne_collectorState_of_cached cached),
        log_fed_of_quiet wired undisturbed waits (quiet .cache).2, ← values,
        show start.cache.find? kind = none from blank kind cached, Option.or_none]
    refine ⟨entry, ?_⟩
    rw [entry, List.getLast?_eq_none_iff, List.filterMap_eq_nil_iff]
    exact forall₂_congr fun event _ => Payload.valueOf?_eq_none_iff

/-- Two lists are published while one loop is ahead of the other. -/
def publishing : List Action :=
  [.ask (.publish "disk_list_update" ⟨.disks, []⟩), .feed .broadcast,
    .ask (.publish "share_list_update" ⟨.shares, []⟩), .fanOut, .feed .cache, .feed .cache,
    .feed .broadcast, .fanOut]

/-- The client was sent both lists, the cache holds both, and it holds nothing else. -/
theorem agreement_of_publishing :
    let start := fresh 16 ⟨16, 16, 0, 0, 0⟩ false .empty ⟨.epoch, 0⟩
    let actions := [.attend .register] ++ publishing
    let now := start.later actions
    (start.sent 1 actions).map (fun event => (event.name, event.payload)) =
        [("disk_list_update", ⟨.disks, []⟩), ("share_list_update", ⟨.shares, []⟩)] ∧
      now.cache.find? .disks = some [] ∧ now.cache.find? .shares = some [] ∧
      now.cache.find? .machines = none := by
  have typed : ∀ action ∈ ([.attend .register] ++ publishing : List Action), action.IsTyped := by
    simp [publishing, Action.IsTyped, Kind.topic]
  have undisturbed : (fresh 16 ⟨16, 16, 0, 0, 0⟩ false .empty ⟨.epoch, 0⟩).Undisturbed
      ([.attend .register] ++ publishing) := by
    refine ⟨by decide +kernel, fun feeder => ?_, fun feeder => ?_, ?_⟩
    · unfold Subscribed
      cases feeder <;> decide +kernel
    · exact List.isEmpty_iff.mp (by cases feeder <;> decide +kernel)
    · exact List.isEmpty_iff.mp (by decide +kernel)
  have listens : (fresh 16 ⟨16, 16, 0, 0, 0⟩ false .empty ⟨.epoch, 0⟩).ListensThroughout
      [.attend .register] publishing 1 := by
    refine ⟨rfl, by decide +kernel, fun request member => ?_, by decide +kernel⟩
    obtain rfl : request = .register := by simpa [publishing] using member
    rfl
  have waits : ((fresh 16 ⟨16, 16, 0, 0, 0⟩ false .empty ⟨.epoch, 0⟩).later
      ([.attend .register] ++ publishing)).Waits := by
    refine ⟨?_, ?_, ?_⟩ <;> exact Option.isNone_iff_eq_none.mp (by decide +kernel)
  have account := cache_agrees_with_stream 16 ⟨16, 16, 0, 0, 0⟩ false (fun _ _ => rfl) ⟨.epoch, 0⟩
    [.attend .register] publishing 1 typed undisturbed listens waits
  dsimp only at account
  obtain ⟨stream, -, entries⟩ := account
  have values (kind : Kind) := congrArg (List.filterMap (·.2.valueOf? kind)) stream
  simp only [List.filterMap_map, Function.comp_def] at values
  refine ⟨stream, ?_, ?_, ?_⟩
  · rw [(entries .disks (by decide)).1, values]
    rfl
  · rw [(entries .shares (by decide)).1, values]
    rfl
  · rw [(entries .machines (by decide)).1, values]
    rfl

end Agent

end ServerMonitor
