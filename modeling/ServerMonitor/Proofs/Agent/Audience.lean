/-
This file follows the events from the hub to one client. What is fanned out while
the client is registered is put into its outbox, or its filter rejects it, or
there is no room and the client is evicted; what is fanned out later comes too
late. As a client is a machine by itself inside the registry, all of this can be
read off that machine.
-/

import ServerMonitor.Proofs.Agent.Relay

namespace ServerMonitor

open Registry (Request)

namespace Client

/-! ### What does not get into the outbox -/

/-- The event that the filter of a registered client rejects. -/
def rejects (client : Client) : Request → List Event
  | .fanOut event =>
    if client.isRegistered && !client.filter.accepts event.name then [event] else []
  | _ => []

/-- The event that a client has no room for, on which it is evicted. -/
def turnsAway (capacity : Nat) (client : Client) : Request → List Event
  | .fanOut event => if client.reach capacity event.name = .slow then [event] else []
  | _ => []

/-- The event that is fanned out after the client was removed. -/
def misses (client : Client) : Request → List Event
  | .fanOut event => if client.isRegistered then [] else [event]
  | _ => []

variable {capacity : Nat} {client : Client}

/-- A client that is registered after a request was so before, and was not evicted. -/
theorem turnsAway_of_registered {request : Request}
    (registered : (client.after capacity request).isRegistered = true) :
    client.isRegistered = true ∧ client.turnsAway capacity request = [] ∧
      client.misses request = [] := by
  obtain ⟨before, -, present⟩ := (client.isRegistered_after_iff capacity request).mp registered
  refine ⟨before, ?_, ?_⟩
  · cases request with
    | fanOut event =>
      refine if_neg fun slow => present ?_
      exact (standing_after_eq_evicted_iff capacity _
        (standing_ne_evicted_of_registered before)).mpr ⟨event, rfl, slow⟩
    | _ => rfl
  · cases request with
    | fanOut event => exact if_pos before
    | _ => rfl

/-- A client that is registered missed nothing. -/
theorem log_of_registered (requests : List Request)
    (registered : (Machine.run (perform capacity) client requests).isRegistered = true) :
    client.isRegistered = true ∧
      Machine.log (perform capacity) (turnsAway capacity) client requests = [] ∧
      Machine.log (perform capacity) misses client requests = [] := by
  induction requests generalizing client with
  | nil => exact ⟨registered, rfl, rfl⟩
  | cons request rest inductionHypothesis =>
    obtain ⟨between, noneLater, nothingLater⟩ := inductionHypothesis registered
    obtain ⟨before, none, nothing⟩ := turnsAway_of_registered between
    rw [Machine.log, Machine.log, none, nothing]
    exact ⟨before, noneLater, nothingLater⟩

/-- A client that was removed is not evicted. -/
theorem log_turnsAway_of_not_registered (gone : client.isRegistered = false)
    (requests : List Request) :
    Machine.log (perform capacity) (turnsAway capacity) client requests = [] := by
  induction requests generalizing client with
  | nil => rfl
  | cons request rest inductionHypothesis =>
    have nothing : client.turnsAway capacity request = [] := by
      cases request with
      | fanOut event =>
        refine if_neg fun slow => ?_
        cases gone.symm.trans (isRegistered_of_reach_eq_slow slow)
      | _ => rfl
    have goneAfter : (client.after capacity request).isRegistered = false := by
      rw [isRegistered, standing_after_of_not_registered capacity request gone]
      exact gone
    rw [Machine.log, nothing]
    exact inductionHypothesis goneAfter

/-- A client is evicted on one event at most. -/
theorem length_log_turnsAway_le (requests : List Request) :
    (Machine.log (perform capacity) (turnsAway capacity) client requests).length ≤ 1 := by
  induction requests generalizing client with
  | nil => exact Nat.zero_le 1
  | cons request rest inductionHypothesis =>
    rw [Machine.log]
    cases registered : (client.after capacity request).isRegistered with
    | true =>
      rw [(turnsAway_of_registered registered).2.1]
      exact inductionHypothesis
    | false =>
      rw [show Machine.log _ _ (client.perform capacity request).1 rest = [] from
        log_turnsAway_of_not_registered registered rest, List.append_nil]
      cases request with
      | fanOut event => rw [turnsAway]; split <;> simp
      | _ => exact Nat.zero_le 1

/-- An open client that nobody filters wanted everything that was fanned out, if it is registered at
the end. -/
theorem log_wants_of_open (unfiltered : client.filter = .everything) (requests : List Request)
    (registered : (Machine.run (perform capacity) client requests).isRegistered = true)
    (kept : ∀ request ∈ requests, filterAfter client.id .everything request = .everything) :
    Machine.log (perform capacity) wants client requests = requests.flatMap Request.fanned := by
  induction requests generalizing client with
  | nil => rfl
  | cons request rest inductionHypothesis =>
    have before := (log_of_registered (request :: rest) registered).1
    have stillOpen : (client.after capacity request).filter = .everything := by
      rw [after_filter, unfiltered]
      exact kept request List.mem_cons_self
    have rest := inductionHypothesis stillOpen registered fun other member => by
      rw [after_id]
      exact kept other (List.mem_cons_of_mem _ member)
    rw [Machine.log, List.flatMap_cons, perform, rest]
    congr 1
    cases request with
    | fanOut event => rw [wants, before, unfiltered]; rfl
    | _ => rfl

/-- A client that nobody filters stays open. -/
theorem run_filter_of_open (unfiltered : client.filter = .everything) (requests : List Request)
    (kept : ∀ request ∈ requests, filterAfter client.id .everything request = .everything) :
    (Machine.run (perform capacity) client requests).filter = .everything := by
  rw [run_filter, unfiltered]
  induction requests with
  | nil => rfl
  | cons request rest inductionHypothesis =>
    rw [List.foldl_cons, kept request List.mem_cons_self]
    exact inductionHypothesis fun other member => kept other (List.mem_cons_of_mem _ member)

end Client

namespace Agent

/-! ### What is noted about a client -/

/-- What is noted about a client when the registry is asked for something. -/
def audience {Entry : Type} (note : Nat → Client → Request → List Entry) (id : Nat)
    (agent : Agent) (action : Action) : List Entry :=
  (agent.act action).2.elim [] fun request =>
    (agent.hub.registry.client? id).elim [] (note agent.hub.registry.capacity · request)

/-- The events that the receiver of a client was given. -/
def received (id : Nat) (start : Agent) (actions : List Action) : List Event :=
  Machine.log act (fun agent action => (agent.act action).2.elim [] fun request =>
    request.given id (agent.hub.registry.perform request).2) start actions

/-- The events that were put into the outbox of a client. -/
def sent (id : Nat) (start : Agent) (actions : List Action) : List Event :=
  Machine.log act (audience Client.admitted id) start actions

/-- The events that were fanned out while the client was registered and its filter rejected their
names. -/
def rejected (id : Nat) (start : Agent) (actions : List Action) : List Event :=
  Machine.log act (audience (fun _ => Client.rejects) id) start actions

/-- The event on which the client was evicted, for it had no room. -/
def turnedAway (id : Nat) (start : Agent) (actions : List Action) : List Event :=
  Machine.log act (audience Client.turnsAway id) start actions

/-- The events that were fanned out after the client was removed. -/
def missed (id : Nat) (start : Agent) (actions : List Action) : List Event :=
  Machine.log act (audience (fun _ => Client.misses) id) start actions

/-- The events that were fanned out while the client was registered and its filter accepted their
names. -/
def wanted (id : Nat) (start : Agent) (actions : List Action) : List Event :=
  Machine.log act (audience (fun _ => Client.wants) id) start actions

/-- Only its own loop has the hub fan out. -/
theorem eq_fanOut_of_act {agent : Agent} {action : Action} {event : Event}
    (asks : (agent.act action).2 = some (.fanOut event)) : action = .fanOut := by
  cases action with
  | fanOut => rfl
  | ask request => rw [act] at asks; split at asks <;> cases asks
  | feed feeder => cases feeder <;> cases asks
  | attend request =>
    rw [act] at asks
    split at asks
    · cases asks
    · rename_i other
      cases asks
      exact absurd rfl other
  | _ => cases asks

/-- What a client wants at some time is fanned out then, while it is registered and its filter
accepts the name. -/
theorem exists_of_mem_wanted {id : Nat} {start : Agent} {actions : List Action} {event : Event}
    (member : event ∈ start.wanted id actions) :
    ∃ past future, actions = past ++ .fanOut :: future ∧
      event ∈ (start.later past).fanned .fanOut ∧
      ∃ client ∈ (start.later past).hub.registry.clients, client.id = id ∧
        client.isRegistered = true ∧ client.filter.accepts event.name = true := by
  obtain ⟨past, action, future, rfl, noted⟩ := Machine.exists_of_mem_log act member
  change event ∈ audience (fun _ => Client.wants) id (start.later past) action at noted
  rw [audience] at noted
  cases asks : ((start.later past).act action).2 with
  | none => rw [asks] at noted; cases noted
  | some request =>
    rw [asks, Option.elim_some] at noted
    cases found : (start.later past).hub.registry.client? id with
    | none => rw [found] at noted; cases noted
    | some client =>
      rw [found, Option.elim_some] at noted
      cases request with
      | fanOut other =>
        change event ∈ client.wants (.fanOut other) at noted
        rw [Client.wants] at noted
        split at noted
        · rename_i accepted
          obtain rfl := List.mem_singleton.mp noted
          obtain rfl := eq_fanOut_of_act asks
          obtain ⟨registered, accepts⟩ := Bool.and_eq_true_iff.mp accepted
          refine ⟨past, future, rfl, ?_, client, List.mem_of_find?_eq_some found,
            by simpa using List.find?_some found, registered, accepts⟩
          rw [fanned, asks]
          exact List.mem_singleton_self _
        · cases noted
      | _ => cases noted

/-- As long as nothing is fanned out there is nothing to note that is a part of it. -/
theorem log_audience_of_silence {note : Nat → Client → Request → List Event}
    (part : ∀ capacity client request, (note capacity client request).Sublist request.fanned)
    {start : Agent} {actions : List Action} (silence : Machine.log act fanned start actions = [])
    (id : Nat) : Machine.log act (audience note id) start actions = [] := by
  refine List.eq_nil_of_sublist_nil (silence ▸ Machine.log_sublist_log act ?_ start actions)
  intro agent action
  rw [audience, fanned]
  cases (agent.act action).2 with
  | none => exact List.Sublist.refl _
  | some request =>
    show List.Sublist _ (request.fanned ++ [])
    rw [Option.elim_some, List.append_nil]
    cases agent.hub.registry.client? id with
    | none => exact List.nil_sublist _
    | some client => exact part _ client request

section Within

variable (start : Agent) (actions : List Action)

theorem log_audience {Entry : Type} (note : Nat → Client → Request → List Entry) (id : Nat) :
    Machine.log act (audience note id) start actions =
      Machine.log Registry.perform
        (fun registry request => (registry.client? id).elim [] (note registry.capacity · request))
        start.hub.registry (start.asked actions) :=
  Machine.log_within act Registry.perform (·.hub.registry)
    (fun agent action => (agent.act action).2) registry_act
    (fun registry request => (registry.client? id).elim [] (note registry.capacity · request))
    start actions

theorem log_received (id : Nat) :
    start.received id actions =
      Machine.log Registry.perform
        (fun registry request => request.given id (registry.perform request).2)
        start.hub.registry (start.asked actions) :=
  Machine.log_within act Registry.perform (·.hub.registry)
    (fun agent action => (agent.act action).2) registry_act
    (fun registry request => request.given id (registry.perform request).2) start actions

end Within

section Holds

variable {start : Agent} {capacity : Nat} {client : Client}
  (holds : Registry.Holds capacity start.hub.registry client) (actions : List Action)

include holds

/-- A client goes through a run of the agent by itself. -/
theorem holds_later : Registry.Holds capacity (start.later actions).hub.registry
    (Machine.run (Client.perform capacity) client (start.asked actions)) := by
  rw [registry_later]
  exact holds.run (start.asked actions)

theorem log_audience_of_holds {Entry : Type} (note : Nat → Client → Request → List Entry) :
    Machine.log act (audience note client.id) start actions =
      Machine.log (Client.perform capacity) (note capacity) client (start.asked actions) :=
  (log_audience start actions note client.id).trans (holds.log_client note (start.asked actions))

theorem received_of_holds : start.received client.id actions =
    Machine.log (Client.perform capacity) Client.taken client (start.asked actions) :=
  (log_received start actions client.id).trans (holds.log_given (start.asked actions))

/-- A client is evicted on one event at most. -/
theorem length_turnedAway_le : (start.turnedAway client.id actions).length ≤ 1 := by
  rw [turnedAway, log_audience_of_holds holds]
  exact Client.length_log_turnsAway_le _

/-- A client that is still registered has lost nothing. -/
theorem nothing_lost_of_registered (registered : (Machine.run (Client.perform capacity) client
    (start.asked actions)).isRegistered = true) :
    start.turnedAway client.id actions = [] ∧ start.missed client.id actions = [] := by
  rw [turnedAway, missed, log_audience_of_holds holds,
    log_audience_of_holds holds actions fun _ => Client.misses]
  exact (Client.log_of_registered _ registered).2

end Holds

/-! ### A new agent -/

/-- An agent that was just assembled, with its loops started. -/
def fresh (busBuffer : Nat) (rules : StreamRules) (crossOrigin : Bool) (cache : Cache)
    (clock : Clock) : Agent :=
  (assemble busBuffer rules crossOrigin cache clock).subscribe

section Fresh

variable (busBuffer : Nat) (rules : StreamRules) (crossOrigin : Bool) (cache : Cache)
  (clock : Clock)

theorem wired_fresh : (fresh busBuffer rules crossOrigin cache clock).Wired ∧ ∀ feeder,
    (fresh busBuffer rules crossOrigin cache clock).Subscribed feeder ∧
      (fresh busBuffer rules crossOrigin cache clock).inbox feeder = [] :=
  wired_subscribe (.withCapacity busBuffer) nofun

variable (actions : List Action)

theorem registry_fresh_later :
    ((fresh busBuffer rules crossOrigin cache clock).later actions).hub.registry =
      Registry.after rules.clientBuffer
        ((fresh busBuffer rules crossOrigin cache clock).asked actions) :=
  registry_later actions _

theorem holds_fresh_later {client : Client} (member : client ∈
    ((fresh busBuffer rules crossOrigin cache clock).later actions).hub.registry.clients) :
    Registry.Holds (max rules.clientBuffer 1)
      ((fresh busBuffer rules crossOrigin cache clock).later actions).hub.registry client := by
  rw [registry_fresh_later] at member ⊢
  exact Registry.holds_after rules.clientBuffer _ member

end Fresh

end Agent

end ServerMonitor
