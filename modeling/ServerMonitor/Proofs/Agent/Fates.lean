/-
This file accounts for every message that is published on a broadcast topic. A
ledger tells what became of each: it waits in one of three queues, or a full
queue refused it, or the filter of the client rejected it, or it came when the
client was gone, or the client received it. Each queue extends the ledger of what
left it to a ledger of what was offered to it, so the ledger of a client grows
from its outbox back to the bus.
-/

import ServerMonitor.Proofs.Agent.Audience

namespace ServerMonitor

/-! ### Ledgers -/

section Ledger

variable {Entry Fate : Type}

/-- The entries that a stage lets through. -/
def passed (offers : List (Entry × Option Fate)) : List Entry :=
  offers.flatMap fun offer => if offer.2.isNone then [offer.1] else []

/-- The offers to a stage that lets accepted entries through. -/
def judged (refused : Fate) (offers : List (Entry × Bool)) : List (Entry × Option Fate) :=
  offers.map fun offer => (offer.1, if offer.2 then none else some refused)

theorem passed_judged (refused : Fate) (offers : List (Entry × Bool)) :
    passed (judged refused offers) = acceptedOf offers := by
  rw [passed, judged, List.flatMap_map, acceptedOf]
  refine congrArg (offers.flatMap ·) (funext fun offer => ?_)
  cases offer.2 <;> rfl

theorem map_fst_judged (refused : Fate) (offers : List (Entry × Bool)) :
    (judged refused offers).map Prod.fst = offers.map Prod.fst := by
  rw [judged, List.map_map]
  rfl

variable [DecidableEq Fate]

/-- The entries of a ledger that have a fate. -/
def withFate (ledger : List (Entry × Fate)) (fate : Fate) : List Entry :=
  ledger.flatMap fun entry => if entry.2 = fate then [entry.1] else []

/-- The entries on which a stage decides finally. -/
def settled (offers : List (Entry × Option Fate)) (fate : Fate) : List Entry :=
  offers.flatMap fun offer => if offer.2 = some fate then [offer.1] else []

theorem withFate_append (first second : List (Entry × Fate)) (fate : Fate) :
    withFate (first ++ second) fate = withFate first fate ++ withFate second fate :=
  List.flatMap_append

theorem withFate_map {Image : Type} (image : Entry → Image) (ledger : List (Entry × Fate))
    (fate : Fate) :
    withFate (ledger.map fun entry => (image entry.1, entry.2)) fate =
      (withFate ledger fate).map image := by
  rw [withFate, withFate, List.flatMap_map, List.map_flatMap]
  refine congrArg (ledger.flatMap ·) (funext fun entry => ?_)
  split <;> rfl

/-- Entries that all have one fate. -/
theorem withFate_all (entries : List Entry) (fate other : Fate) :
    withFate (entries.map (·, fate)) other = if other = fate then entries else [] := by
  by_cases same : other = fate
  · simp [withFate, List.flatMap_map, same]
  · simp [withFate, List.flatMap_map, same, Ne.symm same]

theorem settled_judged (refused : Fate) (offers : List (Entry × Bool)) (fate : Fate) :
    settled (judged refused offers) fate = if fate = refused then refusedOf offers else [] := by
  rw [settled, judged, List.flatMap_map]
  by_cases same : fate = refused
  · subst same
    rw [if_pos rfl, refusedOf]
    refine congrArg (offers.flatMap ·) (funext fun offer => ?_)
    cases offer.2 <;> simp
  · rw [if_neg same]
    refine List.flatMap_eq_nil_iff.mpr fun offer _ => ?_
    cases offer.2 <;> simp [Ne.symm same]

/-- A ledger of what a stage lets through extends to a ledger of what is offered to it, if the stage
settles none of the fates that come later. -/
theorem exists_ledger {offers : List (Entry × Option Fate)} {inner : List (Entry × Fate)}
    (through : inner.map Prod.fst = passed offers)
    (apart : ∀ fate, settled offers fate = [] ∨ withFate inner fate = []) :
    ∃ ledger : List (Entry × Fate), ledger.map Prod.fst = offers.map Prod.fst ∧
      ∀ fate, withFate ledger fate = settled offers fate ++ withFate inner fate := by
  induction offers generalizing inner with
  | nil =>
    refine ⟨[], rfl, fun fate => ?_⟩
    rw [List.map_eq_nil_iff.mp through]
    rfl
  | cons offer rest inductionHypothesis =>
    obtain ⟨entry, verdict⟩ := offer
    cases verdict with
    | some decided =>
      -- The stage settles this entry; the ledger of the rest goes on as before.
      obtain ⟨ledger, messages, fates⟩ := inductionHypothesis through fun fate => by
        refine (apart fate).imp (fun none => ?_) id
        exact (List.append_eq_nil_iff.mp none).2
      refine ⟨(entry, decided) :: ledger, congrArg (entry :: ·) messages, fun fate => ?_⟩
      show (if decided = fate then [entry] else []) ++ withFate ledger fate =
        ((if some decided = some fate then [entry] else []) ++ settled rest fate) ++ _
      rw [fates fate, List.append_assoc]
      simp only [Option.some.injEq]
    | none =>
      -- The entry is let through, so it is the first of the inner ledger.
      cases inner with
      | nil => cases through
      | cons first inner =>
        obtain ⟨same, through⟩ := List.cons.inj through
        obtain ⟨ledger, messages, fates⟩ := inductionHypothesis through fun fate => by
          refine (apart fate).imp id fun none => ?_
          exact (List.append_eq_nil_iff.mp none).2
        refine ⟨(entry, first.2) :: ledger, congrArg (entry :: ·) messages, fun fate => ?_⟩
        change first.1 = entry at same
        show (if first.2 = fate then [entry] else []) ++ withFate ledger fate =
          settled rest fate ++ ((if first.2 = fate then [first.1] else []) ++ withFate inner fate)
        rw [fates fate, same]
        rcases apart fate with none | none
        · rw [show settled rest fate = [] from none]
          rfl
        · rw [show (if first.2 = fate then [entry] else []) = [] from
            same ▸ (List.append_eq_nil_iff.mp none).1]
          rfl

/-- What leaves a queue, and what is in it, extends to a ledger of what was in it and what is
offered to it. -/
theorem exists_ledger_of_queue {before after : List Entry} {offers : List (Entry × Option Fate)}
    {inner : List (Entry × Fate)} (waits : Fate)
    (moved : inner.map Prod.fst ++ after = before ++ passed offers)
    (apart : ∀ fate, settled offers fate = [] ∨ fate ≠ waits ∧ withFate inner fate = []) :
    ∃ ledger : List (Entry × Fate),
      ledger.map Prod.fst = before ++ offers.map Prod.fst ∧
      ∀ fate, withFate ledger fate =
        settled offers fate ++ withFate inner fate ++ if fate = waits then after else [] := by
  have carried : passed (before.map (·, (none : Option Fate)) ++ offers) =
      before ++ passed offers := by
    simp [passed, List.flatMap_append, List.flatMap_map]
  have undecided (fate : Fate) : settled (before.map (·, (none : Option Fate)) ++ offers) fate =
      settled offers fate := by
    simp [settled, List.flatMap_append, List.flatMap_map]
  have through : (inner ++ after.map (·, waits)).map Prod.fst =
      passed (before.map (·, (none : Option Fate)) ++ offers) := by
    rw [carried, ← moved, List.map_append, List.map_map]
    simp [Function.comp_def]
  have here (fate : Fate) : withFate (inner ++ after.map (·, waits)) fate =
      withFate inner fate ++ if fate = waits then after else [] := by
    rw [withFate_append, withFate_all]
  obtain ⟨ledger, messages, fates⟩ := exists_ledger through fun fate => by
    rw [undecided, here]
    refine (apart fate).imp id fun none => ?_
    rw [if_neg none.1, none.2]
    rfl
  refine ⟨ledger, ?_, fun fate => ?_⟩
  · rw [messages, List.map_append, List.map_map]
    simp [Function.comp_def]
  · rw [fates, undecided, here, List.append_assoc]

end Ledger

/-! ### One client -/

/-- What becomes of a message. -/
inductive Fate
  /-- The client received it. -/
  | received
  /-- It waits in the outbox of the client. -/
  | inOutbox
  /-- It waits in the queue of the hub. -/
  | inHub
  /-- It waits in the mailbox of the loop that feeds the hub. -/
  | inMailbox
  /-- The mailbox was full. -/
  | refusedByMailbox
  /-- The queue of the hub was full. -/
  | refusedByHub
  /-- The filter of the client did not accept its name. -/
  | rejected
  /-- The client had no room for it and was evicted. -/
  | turnedAway
  /-- It was fanned out after the client was removed. -/
  | missed
deriving DecidableEq

namespace Client

open Registry (Request)

/-- An event that is fanned out, and what becomes of it if it is not put into the outbox. -/
def verdicts (capacity : Nat) (client : Client) : Request → List (Event × Option Fate)
  | .fanOut event =>
    [(event,
      if !client.isRegistered then some .missed
      else if !client.filter.accepts event.name then some .rejected
      else if client.reach capacity event.name = .slow then some .turnedAway
      else none)]
  | _ => []

/-- The fates on which the registry decides when it fans out. -/
def decided (capacity : Nat) (client : Client) (requests : List Request) : Fate → List Event
  | .rejected => Machine.log (perform capacity) rejects client requests
  | .turnedAway => Machine.log (perform capacity) (turnsAway capacity) client requests
  | .missed => Machine.log (perform capacity) misses client requests
  | _ => []

theorem map_fst_verdicts (capacity : Nat) (client : Client) (request : Request) :
    (client.verdicts capacity request).map Prod.fst = request.fanned := by
  cases request <;> rfl

theorem passed_verdicts (capacity : Nat) (client : Client) (request : Request) :
    passed (client.verdicts capacity request) = client.admitted capacity request := by
  cases request with
  | fanOut event =>
    rw [verdicts, admitted, reach]
    cases client.isRegistered <;> cases client.filter.accepts event.name <;>
      cases client.listening && client.outbox.length < capacity <;> rfl
  | _ => rfl

theorem settled_verdicts (capacity : Nat) (client : Client) (request : Request) (fate : Fate) :
    settled (client.verdicts capacity request) fate =
      match fate with
      | .rejected => client.rejects request
      | .turnedAway => client.turnsAway capacity request
      | .missed => client.misses request
      | _ => [] := by
  cases request with
  | fanOut event =>
    rw [verdicts, rejects, turnsAway, misses, reach]
    cases client.isRegistered <;> cases client.filter.accepts event.name <;>
      cases client.listening && client.outbox.length < capacity <;> cases fate <;> rfl
  | _ => cases fate <;> rfl

theorem settled_log_verdicts (capacity : Nat) (client : Client) (requests : List Request)
    (fate : Fate) :
    settled (Machine.log (perform capacity) (verdicts capacity) client requests) fate =
      client.decided capacity requests fate := by
  rw [settled, Machine.flatMap_log]
  have each := funext fun client : Client => funext fun request =>
    settled_verdicts capacity client request fate
  rw [show (fun (client : Client) (request : Request) =>
    (client.verdicts capacity request).flatMap _) = _ from each]
  cases fate <;> first | rfl | exact Machine.log_eq_nil _ (fun _ _ => rfl) _ _

/-- What was in the outbox and what was fanned out since, with the fate of each event. -/
theorem exists_ledger_of_outbox {capacity : Nat} {client : Client} (requests : List Request)
    (listening : (Machine.run (perform capacity) client requests).listening = true) :
    ∃ ledger : List (Event × Fate),
      ledger.map Prod.fst = client.outbox ++ requests.flatMap Request.fanned ∧
      ∀ fate, withFate ledger fate = client.decided capacity requests fate ++
        (if fate = .received then
          Machine.log (perform capacity) Client.taken client requests else []) ++
        if fate = .inOutbox then
          (Machine.run (perform capacity) client requests).outbox else [] := by
  have admitted : passed (Machine.log (perform capacity) (verdicts capacity) client requests) =
      Machine.log (perform capacity) (Client.admitted capacity) client requests := by
    rw [passed, Machine.flatMap_log]
    exact congrArg (Machine.log (perform capacity) · client requests)
      (funext fun client => funext fun request => passed_verdicts capacity client request)
  have events : (Machine.log (perform capacity) (verdicts capacity) client requests).map Prod.fst =
      requests.flatMap Request.fanned := by
    rw [Machine.map_log, ← Machine.log_const (perform capacity) _ client]
    exact congrArg (Machine.log (perform capacity) · client requests)
      (funext fun client => funext fun request => map_fst_verdicts capacity client request)
  have moved := taken_append_outbox requests listening
  rw [← admitted] at moved
  have heard : ((Machine.log (perform capacity) Client.taken client requests).map
      (·, Fate.received)).map Prod.fst =
        Machine.log (perform capacity) Client.taken client requests := by
    simp [Function.comp_def]
  rw [← heard] at moved
  obtain ⟨ledger, messages, fates⟩ := exists_ledger_of_queue .inOutbox moved fun fate => by
    rw [settled_log_verdicts, withFate_all]
    cases fate <;> first | exact .inl rfl | exact .inr ⟨nofun, rfl⟩
  refine ⟨ledger, by rw [messages, events], fun fate => ?_⟩
  rw [fates, settled_log_verdicts, withFate_all]

end Client

namespace Agent

/-! ### From the outbox back to the bus -/

section

variable {start : Agent} {capacity : Nat} {client : Client}
  (holds : Registry.Holds capacity start.hub.registry client) (actions : List Action)
  (listening : (Machine.run (Client.perform capacity) client (start.asked actions)).listening =
    true)
  (wired : start.Wired) (calm : (start.later actions).hub.cancelled = false)

/-- The events with a fate that comes after the loop of the hub took them over. -/
def eventsWith (start : Agent) (actions : List Action) (id : Nat) (outbox : List Event) :
    Fate → List Event
  | .received => start.received id actions
  | .inOutbox => outbox
  | .inHub => (start.later actions).hub.queue
  | .refusedByHub => start.hubRefusals actions
  | .rejected => start.rejected id actions
  | .turnedAway => start.turnedAway id actions
  | .missed => start.missed id actions
  | .inMailbox | .refusedByMailbox => []

include holds listening wired calm

/-- What waited for the client and for the hub, and what was handed to the hub since, with the fate
of each event. -/
theorem exists_ledger_of_hub :
    ∃ ledger : List (Event × Fate),
      ledger.map Prod.fst = client.outbox ++ start.hub.queue ++
        (Machine.log act handoffs start actions).map Prod.fst ∧
      ∀ fate, withFate ledger fate = start.eventsWith actions client.id
        (Machine.run (Client.perform capacity) client (start.asked actions)).outbox fate := by
  obtain ⟨inner, events, innerFates⟩ := Client.exists_ledger_of_outbox _ listening
  have moved : inner.map Prod.fst ++ (start.later actions).hub.queue =
      (client.outbox ++ start.hub.queue) ++
        passed (judged Fate.refusedByHub (Machine.log act handoffs start actions)) := by
    rw [events, ← fanned_log, passed_judged, List.append_assoc, List.append_assoc,
      fanned_log_append_queue actions wired.hub (hub_later actions wired.hub calm)]
  obtain ⟨ledger, messages, fates⟩ := exists_ledger_of_queue .inHub moved fun fate => by
    rw [settled_judged, innerFates]
    cases fate <;> first | exact .inl rfl | exact .inr ⟨nofun, rfl⟩
  refine ⟨ledger, by rw [messages, map_fst_judged], fun fate => ?_⟩
  rw [fates, settled_judged, innerFates]
  cases fate with
  | received => simp [eventsWith, Client.decided, received_of_holds holds]
  | rejected => simp [eventsWith, Client.decided, rejected, log_audience_of_holds holds]
  | turnedAway => simp [eventsWith, Client.decided, turnedAway, log_audience_of_holds holds]
  | missed => simp [eventsWith, Client.decided, missed, log_audience_of_holds holds]
  | _ => simp [eventsWith, Client.decided, hubRefusals]

/-- The messages with a fate. -/
def messagesWith (start : Agent) (actions : List Action) (id : Nat) (outbox : List Event) :
    Fate → List Payload
  | .inMailbox => (start.later actions).inbox .broadcast
  | .refusedByMailbox => start.refusals .broadcast actions
  | fate => (start.eventsWith actions id outbox fate).map (·.payload)

/-- What was on its way to the client, and what was published since, with the fate of each
message. -/
theorem exists_ledger_of_mailbox
    (subscribed : (start.later actions).Subscribed .broadcast) :
    ∃ ledger : List (Payload × Fate),
      ledger.map Prod.fst = client.outbox.map (·.payload) ++ start.hub.queue.map (·.payload) ++
        start.inbox .broadcast ++ actions.flatMap (·.published .broadcast) ∧
      ∀ fate, withFate ledger fate = start.messagesWith actions client.id
        (Machine.run (Client.perform capacity) client (start.asked actions)).outbox fate := by
  obtain ⟨inner, events, innerFates⟩ := exists_ledger_of_hub holds actions listening wired calm
  have payloads : (inner.map fun entry => (entry.1.payload, entry.2)).map Prod.fst =
      client.outbox.map (·.payload) ++ start.hub.queue.map (·.payload) ++
        Machine.log act (fed .broadcast) start actions := by
    rw [← handoffs_log, List.map_map, ← List.map_append]
    have events := congrArg (List.map (·.payload)) events
    rwa [List.map_map, List.map_append, List.map_map] at events
  have moved : (inner.map fun entry => (entry.1.payload, entry.2)).map Prod.fst ++
      (start.later actions).inbox .broadcast =
        (client.outbox.map (·.payload) ++ start.hub.queue.map (·.payload) ++
          start.inbox .broadcast) ++
        passed (judged Fate.refusedByMailbox
          (Machine.log act (offers .broadcast) start actions)) := by
    rw [payloads, passed_judged, List.append_assoc, wired.fed_log_append_inbox actions subscribed,
      ← List.append_assoc]
  obtain ⟨ledger, messages, fates⟩ := exists_ledger_of_queue .inMailbox moved fun fate => by
    rw [settled_judged, withFate_map, innerFates]
    cases fate <;> first | exact .inl rfl | exact .inr ⟨nofun, rfl⟩
  refine ⟨ledger, by rw [messages, map_fst_judged, offers_log], fun fate => ?_⟩
  rw [fates, settled_judged, withFate_map, innerFates]
  cases fate <;> simp [messagesWith, eventsWith, refusals]

end

/-! ### Every message -/

/-- What a client receives was published on a broadcast topic, in that order and each once, and its
filter accepted the name of the event when it was fanned out. While the mailbox of the loop that
feeds the hub stays subscribed and the hub is not cancelled, every message that is on its way to a
client or published from then on waits in one of the three queues, or a full mailbox or a full hub
refused it, or the filter of the client rejected it, or the client received it; or it was fanned out
when there was no room for it, which happens once and removes the client, or after the client was
removed. A client that is still registered has missed nothing. -/
theorem messages_accounted_for (busBuffer : Nat) (rules : StreamRules) (crossOrigin : Bool)
    (cache : Cache) (clock : Clock) (actions : List Action) :
    let start := fresh busBuffer rules crossOrigin cache clock
    let now := start.later actions
    ∀ client ∈ now.hub.registry.clients,
      ((start.received client.id actions).map (·.payload)).Sublist
        (actions.flatMap (·.published .broadcast)) ∧
      (∀ event ∈ start.received client.id actions,
        event.name = event.payload.kind.topic ∧
        ∃ past future, actions = past ++ .fanOut :: future ∧
          event ∈ (start.later past).fanned .fanOut ∧
          ∃ before ∈ (start.later past).hub.registry.clients, before.id = client.id ∧
            before.isRegistered = true ∧ before.filter.accepts event.name = true) ∧
      ∀ past future, actions = past ++ future →
        ∀ before ∈ (start.later past).hub.registry.clients, before.id = client.id →
          now.hub.cancelled = false → now.Subscribed .broadcast → client.listening = true →
            ∃ ledger : List (Payload × Fate),
              ledger.map Prod.fst =
                before.outbox.map (·.payload) ++
                (start.later past).hub.queue.map (·.payload) ++
                (start.later past).inbox .broadcast ++
                future.flatMap (·.published .broadcast) ∧
              (∀ fate, withFate ledger fate =
                (start.later past).messagesWith future client.id client.outbox fate) ∧
              (withFate ledger .turnedAway).length ≤ 1 ∧
              (client.isRegistered = true →
                withFate ledger .turnedAway = [] ∧ withFate ledger .missed = []) := by
  intro start now client member
  obtain ⟨wired, quiet⟩ := wired_fresh busBuffer rules crossOrigin cache clock
  have received : start.received client.id actions =
      Registry.received rules.clientBuffer (start.asked actions) client.id :=
    log_received start actions client.id
  have wanted : start.wanted client.id actions =
      Registry.wanted rules.clientBuffer (start.asked actions) client.id :=
    log_audience start actions (fun _ => Client.wants) client.id
  have heard : start.received client.id actions <+: start.wanted client.id actions := by
    rw [received, wanted]
    refine Registry.received_isPrefix_wanted rules.clientBuffer ?_
    rwa [← registry_fresh_later]
  refine ⟨?_, fun event given => ⟨rfl, exists_of_mem_wanted (heard.subset given)⟩, ?_⟩
  · have fannedOut : (start.wanted client.id actions).Sublist
        (Machine.log act fanned start actions) := by
      rw [wanted, fanned_log]
      exact Registry.wanted_sublist _ _ _
    refine ((heard.sublist.trans fannedOut).map _).trans ?_
    have published := wired.fanned_sublist actions
    rwa [(quiet .broadcast).2] at published
  · rintro past future rfl before present same calm subscribed listening
    have holds := holds_fresh_later busBuffer rules crossOrigin cache clock past present
    have since : client =
        Machine.run (Client.perform (max rules.clientBuffer 1)) before
          ((start.later past).asked future) := by
      have later := holds_later holds future
      rw [← later_append] at later
      refine later.sound.eq_of_id_eq member later.member ?_
      rw [Client.run_id, same]
    rw [since] at listening
    change ((start.later (past ++ future)).hub.cancelled = false) at calm
    change (start.later (past ++ future)).Subscribed .broadcast at subscribed
    rw [later_append] at calm subscribed
    obtain ⟨ledger, messages, fates⟩ :=
      exists_ledger_of_mailbox holds future listening (wired.later past) calm subscribed
    rw [← since, same] at fates
    refine ⟨ledger, messages, fates, ?_, fun registered => ?_⟩
    · rw [fates, ← same]
      show (List.map _ _).length ≤ 1
      rw [List.length_map]
      exact length_turnedAway_le holds future
    · rw [since] at registered
      obtain ⟨notTurnedAway, notMissed⟩ := nothing_lost_of_registered holds future registered
      rw [fates, fates, ← same]
      exact ⟨congrArg (List.map _) notTurnedAway, congrArg (List.map _) notMissed⟩

/-- Requests that make every queue overflow when there is room for two messages in a mailbox and
for one event elsewhere. -/
def overflow : List Action :=
  [.ask (.publish "disk_list_update" ⟨.disks, []⟩),
    .ask (.publish "share_list_update" ⟨.shares, []⟩),
    .ask (.publish "vm_list_update" ⟨.machines, []⟩), .feed .broadcast, .feed .broadcast, .fanOut,
    .ask (.publish "container_list_update" ⟨.containers, []⟩), .feed .broadcast, .fanOut,
    .ask (.publish "network_list_update" ⟨.network, []⟩), .feed .broadcast, .fanOut,
    .attend (.receive 1), .ask (.publish "disk_list_update" ⟨.disks, []⟩)]

/-- One message is received, one is refused by the hub, one by the mailbox, one evicts the client,
one comes too late and one still waits. -/
theorem fates_of_overflow :
    ∃ ledger : List (Payload × Fate),
      ledger.map Prod.fst = overflow.flatMap (·.published .broadcast) ∧
      withFate ledger .received =
        (((fresh 2 ⟨1, 1, 0, 0, 0⟩ false .empty ⟨.epoch, 0⟩).later [.attend .register]).received 1
          overflow).map (·.payload) ∧
      (withFate ledger .received).map (·.kind) = [.disks] ∧
      (withFate ledger .refusedByHub).map (·.kind) = [.shares] ∧
      (withFate ledger .refusedByMailbox).map (·.kind) = [.machines] ∧
      (withFate ledger .turnedAway).map (·.kind) = [.containers] ∧
      (withFate ledger .missed).map (·.kind) = [.network] ∧
      (withFate ledger .inMailbox).map (·.kind) = [.disks] := by
  obtain ⟨client, member, id, empty, listening⟩ : ∃ client ∈
      ((fresh 2 ⟨1, 1, 0, 0, 0⟩ false .empty ⟨.epoch, 0⟩).later
        ([.attend .register] ++ overflow)).hub.registry.clients,
      client.id = 1 ∧ client.outbox.isEmpty = true ∧ client.listening = true := by
    decide +kernel
  have subscribed : ((fresh 2 ⟨1, 1, 0, 0, 0⟩ false .empty ⟨.epoch, 0⟩).later
      ([.attend .register] ++ overflow)).Subscribed .broadcast := by
    unfold Subscribed
    decide +kernel
  have account := messages_accounted_for 2 ⟨1, 1, 0, 0, 0⟩ false .empty ⟨.epoch, 0⟩
    ([.attend .register] ++ overflow)
  dsimp only at account
  obtain ⟨-, -, account⟩ := account client member
  obtain ⟨ledger, messages, fates, -⟩ := account [.attend .register] overflow rfl (.newcomer 1)
    (List.mem_singleton_self _) id.symm (by decide +kernel) subscribed listening
  rw [id, List.isEmpty_iff.mp empty] at fates
  refine ⟨ledger, messages, fates .received, ?_, ?_, ?_, ?_, ?_, ?_⟩ <;> rw [fates] <;>
    decide +kernel

/-- Three messages are published while a client with room for one is registered. The client receives
only the first, though no mailbox and no hub refused the others, no filter rejected them and they
wait nowhere: the client was evicted on the second, and the third came too late. -/
theorem lost_to_full_outbox :
    let start := fresh 16 ⟨1, 16, 0, 0, 0⟩ false .empty ⟨.epoch, 0⟩
    let past : List Action := [.attend .register,
      .ask (.publish "disk_list_update" ⟨.disks, []⟩),
      .ask (.publish "share_list_update" ⟨.shares, []⟩),
      .ask (.publish "vm_list_update" ⟨.machines, []⟩)]
    let actions := past ++ [.feed .broadcast, .feed .broadcast, .feed .broadcast,
      .fanOut, .fanOut, .fanOut, .attend (.receive 1)]
    let now := start.later actions
    ((start.later past).hub.registry.contains 1 = true ∧
      (past.flatMap (·.published .broadcast)).map (·.kind) = [.disks, .shares, .machines]) ∧
    (now.cancelled = false ∧ now.hub.cancelled = false ∧ now.Subscribed .broadcast) ∧
    (start.received 1 actions).map (·.payload.kind) = [.disks] ∧
    ((start.refusals .broadcast actions).isEmpty = true ∧
      (start.hubRefusals actions).isEmpty = true ∧ (start.rejected 1 actions).isEmpty = true) ∧
    ((now.inbox .broadcast).isEmpty = true ∧ now.hub.queue.isEmpty = true ∧
      ∀ client ∈ now.hub.registry.clients, client.outbox.isEmpty = true) := by
  unfold Subscribed
  decide +kernel

end Agent

end ServerMonitor
