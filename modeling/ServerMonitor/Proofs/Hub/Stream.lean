/-
This file states what a client hears. From the request that registered it on, the
client is a machine by itself inside the registry, and everything the registry
hands out to it is what this machine takes. So a client gets, in order and each
once, the events that it wanted while it was registered. It misses only the event
on which it was evicted, and that is the last one it wanted.
-/

import ServerMonitor.Proofs.Hub.Client

namespace ServerMonitor.Registry

/-! ### Histories -/

/-- The events that a request asks to fan out. -/
def Request.fanned : Request → List Event
  | .fanOut event => [event]
  | _ => []

theorem sublist_of_ite {event : Event} (accepted : Prop) [Decidable accepted] :
    (if accepted then [event] else []).Sublist [event] := by
  split
  · exact List.Sublist.refl _
  · exact List.nil_sublist _

/-- What a client wants is a part of what is fanned out. -/
theorem Request.wants_sublist_fanned (request : Request) (client : Client) :
    (client.wants request).Sublist request.fanned := by
  cases request with
  | fanOut event => exact sublist_of_ite _
  | _ => exact List.Sublist.refl _

/-- What is put into an outbox is a part of what is fanned out. -/
theorem Request.admitted_sublist_fanned (request : Request) (capacity : Nat) (client : Client) :
    (client.admitted capacity request).Sublist request.fanned := by
  cases request with
  | fanOut event => exact sublist_of_ite _
  | _ => exact List.Sublist.refl _

/-- The events that an answer hands out to a client. -/
def Request.given (id : Nat) : Request → Reply → List Event
  | .receive other, .received (.message event) => if other = id then [event] else []
  | _, _ => []

/-- The registry after a list of requests. -/
def after (capacity : Nat) (requests : List Request) : Registry :=
  Machine.run perform (withCapacity capacity) requests

/-- The events that the receiver of a client was given. -/
def received (capacity : Nat) (requests : List Request) (id : Nat) : List Event :=
  Machine.log perform (fun registry request => request.given id (registry.perform request).2)
    (withCapacity capacity) requests

/-- The events that were fanned out while the client was registered and its filter accepted
their names. -/
def wanted (capacity : Nat) (requests : List Request) (id : Nat) : List Event :=
  Machine.log perform (fun registry request => (registry.client? id).elim [] (·.wants request))
    (withCapacity capacity) requests

theorem sound_after (capacity : Nat) (requests : List Request) :
    (after capacity requests).Sound :=
  (Sound.withCapacity capacity).run requests

theorem capacity_after (capacity : Nat) (requests : List Request) :
    (after capacity requests).capacity = max capacity 1 :=
  Machine.run_invariant perform (fun registry => registry.capacity = max capacity 1)
    (fun registry request same => (registry.capacity_perform request).trans same) rfl requests

theorem after_concat (capacity : Nat) (past : List Request) (request : Request) :
    after capacity (past ++ [request]) = ((after capacity past).perform request).1 :=
  Machine.run_concat perform _ past request

/-! ### A client inside the registry -/

namespace Sound

variable {registry : Registry}

theorem client?_of_mem (sound : registry.Sound) {client : Client}
    (member : client ∈ registry.clients) : registry.client? client.id = some client :=
  (sound.client?_eq_some_iff client.id client).mpr ⟨member, rfl⟩

theorem contains_of_mem (sound : registry.Sound) {client : Client}
    (member : client ∈ registry.clients) : registry.contains client.id = client.isRegistered := by
  rw [Bool.eq_iff_iff]
  constructor
  · intro found
    obtain ⟨other, present, same⟩ := List.any_eq_true.mp found
    obtain ⟨otherMember, registered⟩ := List.mem_filter.mp present
    rw [← sound.eq_of_id_eq otherMember member (of_decide_eq_true same)]
    exact registered
  · intro registered
    exact List.any_eq_true.mpr
      ⟨client, List.mem_filter.mpr ⟨member, registered⟩, decide_eq_true rfl⟩

/-- What an answer hands out to a client is what the client takes. -/
theorem given_of_mem (sound : registry.Sound) {client : Client}
    (member : client ∈ registry.clients) (request : Request) :
    request.given client.id (registry.perform request).2 = client.taken request := by
  cases request with
  | receive id =>
    show Request.given client.id (.receive id) (.received (registry.receive id).2) = _
    rw [Client.taken]
    by_cases own : client.id = id
    · subst own
      unfold receive
      rw [sound.client?_of_mem member, if_pos rfl]
      dsimp only
      cases client.outbox with
      | cons event rest => simp [Request.given]
      | nil => cases client.isRegistered <;> rfl
    · rw [if_neg own]
      cases (registry.receive id).2 with
      | message event => rw [Request.given, if_neg fun same => own same.symm]
      | _ => rfl
  | _ => rfl

/-- Nothing is handed out to, or wanted by, a client that does not exist. -/
theorem nothing_of_unknown (sound : registry.Sound) {id : Nat} (unknown : registry.nextId ≤ id)
    (request : Request) :
    request.given id (registry.perform request).2 = [] ∧
      (registry.client? id).elim [] (·.wants request) = [] := by
  have absent : registry.client? id = none := by
    cases found : registry.client? id with
    | none => rfl
    | some client =>
      obtain ⟨member, rfl⟩ := (sound.client?_eq_some_iff id client).mp found
      have := sound.id_lt_nextId member
      omega
  refine ⟨?_, by rw [absent]; rfl⟩
  cases request with
  | receive other =>
    show Request.given id (.receive other) (.received (registry.receive other).2) = _
    by_cases own : other = id
    · subst own
      unfold receive
      rw [absent]
      rfl
    · cases (registry.receive other).2 with
      | message event => rw [Request.given, if_neg own]
      | _ => rfl
  | _ => rfl

end Sound

/-- The registry holds a client that goes through a run by itself. -/
structure Holds (capacity : Nat) (registry : Registry) (client : Client) : Prop where
  sound : registry.Sound
  capacity : registry.capacity = capacity
  member : client ∈ registry.clients

theorem Holds.perform {capacity : Nat} {registry : Registry} {client : Client}
    (holds : Holds capacity registry client) (request : Request) :
    Holds capacity (registry.perform request).1 (client.perform capacity request).1 where
  sound := holds.sound.perform request
  capacity := (registry.capacity_perform request).trans holds.capacity
  member := (holds.sound.mem_clients_perform_iff request _).mpr
    (.inl ⟨client, holds.member, by rw [holds.capacity]; rfl⟩)

section Run

variable {capacity : Nat} {registry : Registry} {client : Client}

theorem Holds.run (holds : Holds capacity registry client) (requests : List Request) :
    Holds capacity (Machine.run Registry.perform registry requests)
      (Machine.run (Client.perform capacity) client requests) := by
  induction requests generalizing registry client with
  | nil => exact holds
  | cons request rest inductionHypothesis => exact inductionHypothesis (holds.perform request)

theorem Holds.log_given (holds : Holds capacity registry client) (requests : List Request) :
    Machine.log Registry.perform
        (fun registry request => request.given client.id (registry.perform request).2)
        registry requests =
      Machine.log (Client.perform capacity) Client.taken client requests := by
  refine Machine.log_eq_of_related Registry.perform (Client.perform capacity)
    (fun registry other => Holds capacity registry other ∧ other.id = client.id)
    (fun registry other request current => ⟨?_, current.1.perform request, ?_⟩)
    ⟨holds, rfl⟩ requests
  · rw [← current.2]
    exact current.1.sound.given_of_mem current.1.member request
  · exact (other.after_id capacity request).trans current.2

/-- What is noted about a client of the registry is what is noted about the client by itself. -/
theorem Holds.log_client {Entry : Type} (note : Nat → Client → Request → List Entry)
    (holds : Holds capacity registry client) (requests : List Request) :
    Machine.log Registry.perform
        (fun registry request =>
          (registry.client? client.id).elim [] (note registry.capacity · request))
        registry requests =
      Machine.log (Client.perform capacity) (note capacity) client requests := by
  refine Machine.log_eq_of_related Registry.perform (Client.perform capacity)
    (fun registry other => Holds capacity registry other ∧ other.id = client.id)
    (fun registry other request current => ⟨?_, current.1.perform request, ?_⟩)
    ⟨holds, rfl⟩ requests
  · rw [← current.2, current.1.sound.client?_of_mem current.1.member, current.1.capacity]
    rfl
  · exact (other.after_id capacity request).trans current.2

theorem Holds.log_wanted (holds : Holds capacity registry client) (requests : List Request) :
    Machine.log Registry.perform
        (fun registry request => (registry.client? client.id).elim [] (·.wants request))
        registry requests =
      Machine.log (Client.perform capacity) Client.wants client requests :=
  holds.log_client (fun _ => Client.wants) requests

end Run

/-! ### From the registration on -/

section Arrival

variable (capacity : Nat) (past future : List Request)

theorem holds_after {client : Client} (member : client ∈ (after capacity past).clients) :
    Holds (max capacity 1) (after capacity past) client :=
  ⟨sound_after capacity past, capacity_after capacity past, member⟩

theorem run_mem_after {client : Client} (member : client ∈ (after capacity past).clients) :
    Machine.run (Client.perform (max capacity 1)) client future ∈
      (after capacity (past ++ future)).clients := by
  rw [after, Machine.run_append]
  exact ((holds_after capacity past member).run future).member

theorem received_append {client : Client} (member : client ∈ (after capacity past).clients) :
    received capacity (past ++ future) client.id = received capacity past client.id ++
      Machine.log (Client.perform (max capacity 1)) Client.taken client future := by
  rw [received, Machine.log_append, ← (holds_after capacity past member).log_given future]
  rfl

theorem wanted_append {client : Client} (member : client ∈ (after capacity past).clients) :
    wanted capacity (past ++ future) client.id = wanted capacity past client.id ++
      Machine.log (Client.perform (max capacity 1)) Client.wants client future := by
  rw [wanted, Machine.log_append, ← (holds_after capacity past member).log_wanted future]
  rfl

/-- Before its identity is given a client receives nothing and wants nothing. -/
theorem history_of_unknown {id : Nat} (unknown : (after capacity past).nextId ≤ id) :
    received capacity past id = [] ∧ wanted capacity past id = [] := by
  induction past using List.reverseRecOn with
  | nil => exact ⟨rfl, rfl⟩
  | append_singleton before request inductionHypothesis =>
    have earlier : (after capacity before).nextId ≤ id := by
      rw [after_concat, nextId_perform] at unknown
      omega
    obtain ⟨nothingReceived, nothingWanted⟩ := inductionHypothesis earlier
    obtain ⟨nothingGiven, noWish⟩ :=
      (sound_after capacity before).nothing_of_unknown earlier request
    rw [received, wanted, Machine.log_concat, Machine.log_concat]
    exact ⟨List.append_eq_nil_iff.mpr ⟨nothingReceived, nothingGiven⟩,
      List.append_eq_nil_iff.mpr ⟨nothingWanted, noWish⟩⟩

/-- Every client was registered by some request and is what it became of itself since. -/
theorem arrival {requests : List Request} {client : Client}
    (member : client ∈ (after capacity requests).clients) :
    ∃ past future, requests = past ++ .register :: future ∧
      ((after capacity past).perform .register).2 = .granted (some client.id) ∧
      client = Machine.run (Client.perform (max capacity 1)) (.newcomer client.id) future := by
  induction requests using List.reverseRecOn generalizing client with
  | nil => cases member
  | append_singleton past request inductionHypothesis =>
    rw [after_concat, (sound_after capacity past).mem_clients_perform_iff, capacity_after]
      at member
    rcases member with ⟨before, present, rfl⟩ | joins
    · obtain ⟨early, late, rfl, granted, since⟩ := inductionHypothesis present
      refine ⟨early, late ++ [request], by rw [List.append_assoc, List.cons_append], ?_, ?_⟩
      · rw [granted, Client.after_id]
      · rw [Machine.run_concat, Client.after_id, ← since]
        rfl
    · obtain ⟨rfl, joining, rfl⟩ := Sound.eq_newcomer joins
      exact ⟨past, [], rfl, (granted_iff _ _).mpr joining, rfl⟩

/-- The registry after a granted registration holds the newcomer, who has no history. -/
theorem newcomer_mem {id : Nat}
    (granted : ((after capacity past).perform .register).2 = .granted (some id)) :
    Client.newcomer id ∈ (after capacity (past ++ [.register])).clients ∧
      received capacity (past ++ [.register]) id = [] ∧
      wanted capacity (past ++ [.register]) id = [] := by
  have sound := sound_after capacity past
  have joining := (granted_iff _ _).mp granted
  have joins : Client.newcomer id ∈ (after capacity past).joining .register := by
    rw [joining]
    exact List.mem_singleton_self _
  have unknown : (after capacity past).nextId ≤ id := by
    have same : id = (after capacity past).nextId :=
      congrArg Client.id (Sound.eq_newcomer joins).2.2
    omega
  obtain ⟨nothingReceived, nothingWanted⟩ := history_of_unknown capacity past unknown
  obtain ⟨nothingGiven, noWish⟩ := sound.nothing_of_unknown unknown .register
  refine ⟨?_, ?_, ?_⟩
  · rw [after_concat, sound.mem_clients_perform_iff]
    exact .inr joins
  · rw [received, Machine.log_concat]
    exact List.append_eq_nil_iff.mpr ⟨nothingReceived, nothingGiven⟩
  · rw [wanted, Machine.log_concat]
    exact List.append_eq_nil_iff.mpr ⟨nothingWanted, noWish⟩

variable {id : Nat} (granted : ((after capacity past).perform .register).2 = .granted (some id))

include granted

theorem mem_since_arrival :
    Machine.run (Client.perform (max capacity 1)) (.newcomer id) future ∈
      (after capacity (past ++ .register :: future)).clients := by
  rw [List.append_cons]
  exact run_mem_after capacity _ future (newcomer_mem capacity past granted).1

theorem received_since_arrival :
    received capacity (past ++ .register :: future) id =
      Machine.log (Client.perform (max capacity 1)) Client.taken (.newcomer id) future := by
  obtain ⟨present, noneReceived, _⟩ := newcomer_mem capacity past granted
  rw [List.append_cons, ← List.nil_append (Machine.log _ _ _ _), ← noneReceived]
  exact received_append capacity _ future present

theorem wanted_since_arrival :
    wanted capacity (past ++ .register :: future) id =
      Machine.log (Client.perform (max capacity 1)) Client.wants (.newcomer id) future := by
  obtain ⟨present, _, noneWanted⟩ := newcomer_mem capacity past granted
  rw [List.append_cons, ← List.nil_append (Machine.log _ _ _ _), ← noneWanted]
  exact wanted_append capacity _ future present

end Arrival

/-! ### No gap -/

/-- A client that is removed stays removed, wants nothing more, and nothing more reaches it. -/
theorem nothing_after_removal (capacity : Nat) (past future : List Request)
    {before : Client} (member : before ∈ (after capacity past).clients)
    (gone : before.isRegistered = false) {client : Client}
    (later : client ∈ (after capacity (past ++ future)).clients) (same : client.id = before.id) :
    client.standing = before.standing ∧
      wanted capacity (past ++ future) client.id = wanted capacity past client.id ∧
      (client.listening = true →
        received capacity (past ++ future) client.id ++ client.outbox =
          received capacity past client.id ++ before.outbox) := by
  have since : client = Machine.run (Client.perform (max capacity 1)) before future :=
    (sound_after capacity (past ++ future)).eq_of_id_eq later
      (run_mem_after capacity past future member) (same.trans (Client.run_id future).symm)
  obtain ⟨standing, noWishes, nothing⟩ := Client.run_of_not_registered gone future
  rw [same, wanted_append capacity past future member, noWishes, List.append_nil,
    received_append capacity past future member, List.append_assoc]
  refine ⟨by rw [since, standing], rfl, fun listening => ?_⟩
  rw [since] at listening
  rw [since, Client.taken_append_outbox future listening, nothing, List.append_nil]

/-- What a client received is what it wanted, from the beginning on and without a gap. -/
theorem received_isPrefix_wanted (capacity : Nat) {requests : List Request} {client : Client}
    (member : client ∈ (after capacity requests).clients) :
    received capacity requests client.id <+: wanted capacity requests client.id := by
  obtain ⟨past, future, rfl, granted, -⟩ := arrival capacity member
  rw [received_since_arrival capacity past future granted,
    wanted_since_arrival capacity past future granted]
  have heard : Machine.log (Client.perform (max capacity 1)) Client.taken (.newcomer client.id)
      future <+: Machine.log (Client.perform (max capacity 1)) (Client.admitted (max capacity 1))
        (.newcomer client.id) future :=
    Client.taken_isPrefix (fun silent => by cases silent) future
  refine heard.trans ?_
  by_cases evicted : (Machine.run (Client.perform (max capacity 1)) (.newcomer client.id)
      future).standing = .evicted
  · obtain ⟨_, event, _, -, -, wantedEq, -⟩ :=
      Client.wanted_of_evicted (by decide : Standing.registered ≠ .evicted) future evicted
    exact ⟨[event], wantedEq.symm⟩
  · have wantedEq := Client.wanted_of_not_evicted future evicted
    exact ⟨[], (List.append_nil _).trans wantedEq.symm⟩

/-- What a client wants was fanned out, in that order. -/
theorem wanted_sublist (capacity : Nat) (requests : List Request) (id : Nat) :
    (wanted capacity requests id).Sublist (requests.flatMap Request.fanned) := by
  refine Machine.log_sublist_flatMap Registry.perform (fun registry request => ?_) _ requests
  cases (registry.client? id) with
  | none => exact List.nil_sublist _
  | some other => exact request.wants_sublist_fanned other

/-- A client that was not evicted hears all it wanted. -/
theorem received_append_outbox (capacity : Nat) {requests : List Request} {client : Client}
    (member : client ∈ (after capacity requests).clients) (listening : client.listening = true)
    (present : client.standing ≠ .evicted) :
    received capacity requests client.id ++ client.outbox =
      wanted capacity requests client.id := by
  obtain ⟨past, future, rfl, granted, since⟩ := arrival capacity member
  rw [received_since_arrival capacity past future granted,
    wanted_since_arrival capacity past future granted]
  generalize client.id = id at since ⊢
  subst since
  rw [Client.taken_append_outbox future listening, Client.wanted_of_not_evicted future present]
  rfl

/-- A client that was evicted hears all it wanted but the event on which it was evicted. -/
theorem received_append_outbox_of_evicted (capacity : Nat) {requests : List Request}
    {client : Client} (member : client ∈ (after capacity requests).clients)
    (listening : client.listening = true) (evicted : client.standing = .evicted) :
    ∃ past event future, requests = past ++ .fanOut event :: future ∧
      (after capacity past).contains client.id = true ∧
      (after capacity (past ++ [.fanOut event])).contains client.id = false ∧
      received capacity requests client.id ++ client.outbox = wanted capacity past client.id ∧
      wanted capacity requests client.id = wanted capacity past client.id ++ [event] := by
  obtain ⟨past, future, rfl, granted, since⟩ := arrival capacity member
  generalize client.id = id at granted since ⊢
  subst since
  obtain ⟨early, event, late, rfl, slow, wantedEq, admittedEq⟩ :=
    Client.wanted_of_evicted (by decide : Standing.registered ≠ .evicted) future evicted
  have registered := Client.isRegistered_of_reach_eq_slow slow
  have wantedEarly := Client.wanted_of_not_evicted early
    (Client.standing_ne_evicted_of_registered registered)
  have outboxEq := Client.taken_append_outbox _ listening
  have before := mem_since_arrival capacity past early granted
  have after := mem_since_arrival capacity past (early ++ [.fanOut event]) granted
  refine ⟨past ++ .register :: early, event, late, ?_, ?_, ?_, ?_, ?_⟩
  · rw [List.append_assoc, List.cons_append]
  · have contains := (sound_after capacity _).contains_of_mem before
    rw [Client.run_id] at contains
    exact contains.trans registered
  · have contains := (sound_after capacity _).contains_of_mem after
    rw [Client.run_id, Machine.run_concat] at contains
    rw [List.append_assoc, List.cons_append]
    refine contains.trans (Client.not_registered_of_evicted ?_)
    exact (Client.standing_after_eq_evicted_iff _ _
      (Client.standing_ne_evicted_of_registered registered)).mpr ⟨event, rfl, slow⟩
  · rw [received_since_arrival capacity past _ granted,
      wanted_since_arrival capacity past _ granted, outboxEq, admittedEq, wantedEarly]
    rfl
  · rw [wanted_since_arrival capacity past _ granted, wanted_since_arrival capacity past _ granted,
      wantedEq, admittedEq, wantedEarly]

/-- The client hears everything it wants. What it received, followed by what waits for it, is what
was fanned out while it was registered and its filter accepted the name; only the event on which
it was evicted is missing, and that is the last it wanted. So what it received is at every time a
part of what it wanted from the beginning on, without a gap, and nothing is added to it once the
client is removed. -/
theorem stream_without_gap (capacity : Nat) (requests : List Request) :
    ∀ client ∈ (after capacity requests).clients,
      (∃ past future, requests = past ++ .register :: future ∧
        ((after capacity past).perform .register).2 = .granted (some client.id) ∧
        client.filter = future.foldl (Client.filterAfter client.id) .everything ∧
        (client.isRegistered = true ↔ client.standing ≠ .evicted ∧
          ∀ request ∈ future, Client.removes client.id request = false)) ∧
      (wanted capacity requests client.id).Sublist (requests.flatMap Request.fanned) ∧
      received capacity requests client.id <+: wanted capacity requests client.id ∧
      (client.listening = true → client.standing ≠ .evicted →
        received capacity requests client.id ++ client.outbox =
          wanted capacity requests client.id) ∧
      (client.listening = true → client.standing = .evicted →
        ∃ past event future, requests = past ++ .fanOut event :: future ∧
          (after capacity past).contains client.id = true ∧
          (after capacity (past ++ [.fanOut event])).contains client.id = false ∧
          received capacity requests client.id ++ client.outbox =
            wanted capacity past client.id ∧
          wanted capacity requests client.id = wanted capacity past client.id ++ [event]) ∧
      (∀ past future, requests = past ++ future →
        ∀ before ∈ (after capacity past).clients, before.id = client.id →
          before.isRegistered = false →
            client.standing = before.standing ∧
              wanted capacity requests client.id = wanted capacity past client.id ∧
              (client.listening = true →
                received capacity requests client.id ++ client.outbox =
                  received capacity past client.id ++ before.outbox)) := by
  intro client member
  refine ⟨?_, ?_, received_isPrefix_wanted capacity member, received_append_outbox capacity member,
    received_append_outbox_of_evicted capacity member, ?_⟩
  · obtain ⟨past, future, rfl, granted, since⟩ := arrival capacity member
    refine ⟨past, future, rfl, granted, ?_, ?_⟩
    · rw [since, Client.run_filter, ← since]
      rfl
    · have kept : (Machine.run (Client.perform (max capacity 1)) (.newcomer client.id)
          future).isRegistered = true ↔ _ := Client.isRegistered_run_iff rfl future
      rwa [← since] at kept
  · exact wanted_sublist capacity requests client.id
  · rintro past future rfl before present same gone
    exact nothing_after_removal capacity past future present gone member same.symm

/-- A client with room for one event is evicted on the second, which it misses. -/
theorem stream_of_slow_client :
    let requests : List Request :=
      [.register, .fanOut ⟨⟨.disks, []⟩, .epoch⟩, .fanOut ⟨⟨.shares, []⟩, .epoch⟩, .receive 1,
        .fanOut ⟨⟨.disks, []⟩, .epoch⟩]
    ∃ past event future, requests = past ++ .fanOut event :: future ∧
      received 1 requests 1 ++ [] = wanted 1 past 1 ∧
      wanted 1 requests 1 = wanted 1 past 1 ++ [event] := by
  intro requests
  have member : (⟨1, .everything, [], true, .evicted⟩ : Client) ∈ (after 1 requests).clients := by
    have clients : (after 1 requests).clients = [⟨1, .everything, [], true, .evicted⟩] := by rfl
    rw [clients]
    exact List.mem_singleton_self _
  obtain ⟨-, -, -, -, evicted, -⟩ := stream_without_gap 1 requests _ member
  obtain ⟨past, event, future, split, -, -, heard, missed⟩ := evicted rfl rfl
  exact ⟨past, event, future, split, heard, missed⟩

end ServerMonitor.Registry
