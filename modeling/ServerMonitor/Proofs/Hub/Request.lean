/-
This file makes the registry of clients a machine and shows that a request acts
on every client by itself. Only registration adds a client; a fan-out queues the
event for a client, evicts it or passes it over, depending on nothing but that
client. Removal of slow clients goes by identity, so this rests on identities
being given once.
-/

import Mathlib.Data.List.Nodup
import ServerMonitor.Hub.Registry
import ServerMonitor.Proofs.Machine

namespace ServerMonitor

/-! ### Requests -/

namespace Registry

inductive Request
  | register
  | unregister (id : Nat)
  | setFilter (id : Nat) (filter : Filter)
  /-- A text frame from a client. -/
  | control (id : Nat) (text : String)
  | fanOut (event : Event)
  | receive (id : Nat)
  | dropReceiver (id : Nat)
  | shutdown

inductive Reply
  /-- The client was registered under this identity, or refused. -/
  | granted (id : Option Nat)
  /-- Whether the client was registered. -/
  | removed (was : Bool)
  /-- So many clients were reached. -/
  | reached (count : Nat)
  | received (receipt : Receipt Event)
  | done

/-- What the registry does when it is asked. -/
def perform : Machine Registry Request Reply
  | registry, .register => (registry.register.1, .granted registry.register.2)
  | registry, .unregister id => ((registry.unregister id).1, .removed (registry.unregister id).2)
  | registry, .setFilter id filter => (registry.setFilter id filter, .done)
  | registry, .control id text => (registry.control id text, .done)
  | registry, .fanOut event => ((registry.fanOut event).1, .reached (registry.fanOut event).2)
  | registry, .receive id => ((registry.receive id).1, .received (registry.receive id).2)
  | registry, .dropReceiver id => (registry.dropReceiver id, .done)
  | registry, .shutdown => (registry.shutdown, .done)

end Registry

open Registry

/-! ### One client -/

namespace Client

/-- A client that was just registered. -/
def newcomer (id : Nat) : Client := ⟨id, .everything, [], true, .registered⟩

/-- A client after an event was fanned out. -/
def offered (client : Client) (capacity : Nat) (event : Event) : Client :=
  match client.reach capacity event.name with
  | .skipped => client
  | .reached => { client with outbox := client.outbox ++ [event] }
  | .slow => { client with standing := .evicted }

/-- A client after it was removed from the registry, if it was still there. -/
def removed (client : Client) (standing : Standing) : Client :=
  if client.isRegistered then { client with standing } else client

/-- A client after a request. -/
def after (capacity : Nat) (client : Client) : Registry.Request → Client
  | .register => client
  | .unregister id => if client.id = id then client.removed .left else client
  | .setFilter id filter => if client.id = id then { client with filter } else client
  | .control id text =>
    if client.id = id then { client with filter := client.filter.control text } else client
  | .fanOut event => client.offered capacity event
  | .receive id => if client.id = id then { client with outbox := client.outbox.tail } else client
  | .dropReceiver id =>
    if client.id = id then { client with listening := false, outbox := [] } else client
  | .shutdown => client.removed .cleared

/-! Removal changes nothing but the standing, an offer neither identity nor filter. -/

section Frame

variable (client : Client)

@[simp] theorem removed_id (standing : Standing) :
    (client.removed standing).id = client.id := by unfold removed; split <;> rfl

@[simp] theorem removed_filter (standing : Standing) :
    (client.removed standing).filter = client.filter := by unfold removed; split <;> rfl

@[simp] theorem removed_outbox (standing : Standing) :
    (client.removed standing).outbox = client.outbox := by unfold removed; split <;> rfl

@[simp] theorem removed_listening (standing : Standing) :
    (client.removed standing).listening = client.listening := by unfold removed; split <;> rfl

@[simp] theorem offered_id (capacity : Nat) (event : Event) :
    (client.offered capacity event).id = client.id := by unfold offered; split <;> rfl

@[simp] theorem offered_filter (capacity : Nat) (event : Event) :
    (client.offered capacity event).filter = client.filter := by unfold offered; split <;> rfl

@[simp] theorem offered_listening (capacity : Nat) (event : Event) :
    (client.offered capacity event).listening = client.listening := by
  unfold offered; split <;> rfl

@[simp] theorem after_id (capacity : Nat) (request : Registry.Request) :
    (client.after capacity request).id = client.id := by
  cases request with
  | register => rfl
  | fanOut event => exact client.offered_id capacity event
  | shutdown => exact client.removed_id .cleared
  | unregister id => rw [after]; split <;> simp
  | setFilter id filter => rw [after]; split <;> rfl
  | control id text => rw [after]; split <;> rfl
  | receive id => rw [after]; split <;> rfl
  | dropReceiver id => rw [after]; split <;> rfl

end Frame

/-- Only a fan-out puts something into an outbox. -/
theorem outbox_after_suffix (client : Client) (capacity : Nat) {request : Registry.Request}
    (other : ∀ event, request ≠ .fanOut event) :
    (client.after capacity request).outbox <:+ client.outbox := by
  cases request with
  | fanOut event => exact absurd rfl (other event)
  | register => exact List.suffix_rfl
  | shutdown => exact client.removed_outbox .cleared ▸ List.suffix_rfl
  | unregister id | setFilter id _ | control id _ =>
    rw [after]
    split <;> simp
  | receive id =>
    rw [after]
    split
    · exact List.tail_suffix _
    · exact List.suffix_rfl
  | dropReceiver id =>
    rw [after]
    split
    · exact List.nil_suffix
    · exact List.suffix_rfl

/-- Only registered clients are slow. -/
theorem isRegistered_of_reach_eq_slow {client : Client} {capacity : Nat} {name : String}
    (slow : client.reach capacity name = .slow) : client.isRegistered = true := by
  cases registered : client.isRegistered with
  | true => rfl
  | false =>
    unfold reach at slow
    rw [registered] at slow
    cases slow

end Client

/-! ### All clients -/

namespace Registry

/-- What every registry keeps: clients are numbered from one on, in the order of their coming. -/
structure Sound (registry : Registry) : Prop where
  ids : registry.clients.map (·.id) = List.range' 1 registry.clients.length
  nextId : registry.nextId = registry.clients.length + 1

/-- The client that a request adds. -/
def joining (registry : Registry) : Request → List Client
  | .register => if registry.closed then [] else [.newcomer registry.nextId]
  | _ => []

theorem capacity_perform (registry : Registry) (request : Request) :
    (registry.perform request).1.capacity = registry.capacity := by
  cases request with
  | register =>
    show registry.register.1.capacity = _
    unfold register
    split <;> rfl
  | receive id =>
    show (registry.receive id).1.capacity = _
    unfold receive
    split
    · rfl
    · split <;> rfl
  | _ => rfl

theorem nextId_perform (registry : Registry) (request : Request) :
    (registry.perform request).1.nextId =
      registry.nextId + (registry.joining request).length := by
  cases request with
  | register =>
    show registry.register.1.nextId = _
    unfold register joining
    split <;> rfl
  | receive id =>
    show (registry.receive id).1.nextId = _
    unfold receive
    split
    · rfl
    · split <;> rfl
  | _ => rfl

theorem map_id_joining (registry : Registry) (request : Request) :
    (registry.joining request).map (·.id) =
      List.range' registry.nextId (registry.joining request).length := by
  cases request with
  | register => rw [joining]; split <;> rfl
  | _ => rfl

/-- Registration is granted exactly if it adds a client. -/
theorem granted_iff (registry : Registry) (id : Nat) :
    (registry.perform .register).2 = .granted (some id) ↔
      registry.joining .register = [.newcomer id] := by
  show Reply.granted registry.register.2 = _ ↔ _
  unfold register joining Client.newcomer
  cases registry.closed <;> simp

section Distinct

variable (registry : Registry) (event : Event)
  (distinct : (registry.members.map (·.id)).Nodup)

include distinct

/-- The scan of a fan-out finds the registered clients that are slow, if no two of them have the
same identity. -/
theorem mem_slow_iff {client : Client} (member : client ∈ registry.clients)
    (registered : client.isRegistered = true) :
    client.id ∈ (registry.scan event).2.slow ↔
      client.reach registry.capacity event.name = .slow := by
  constructor
  · intro found
    obtain ⟨other, otherFound, same⟩ := List.mem_map.mp found
    obtain ⟨otherMember, reach⟩ := List.mem_filter.mp otherFound
    have otherSlow := of_decide_eq_true reach
    have otherPresent : other ∈ registry.members :=
      List.mem_filter.mpr ⟨otherMember, Client.isRegistered_of_reach_eq_slow otherSlow⟩
    rwa [← List.inj_on_of_nodup_map distinct otherPresent
      (List.mem_filter.mpr ⟨member, registered⟩) same]
  · intro reach
    exact List.mem_map_of_mem (List.mem_filter.mpr ⟨member, decide_eq_true reach⟩)

/-- A fan-out evicts exactly the clients that its scan found slow. -/
theorem clients_fanOut_of_distinct :
    (registry.fanOut event).1.clients =
      registry.clients.map fun client => client.offered registry.capacity event := by
  show ((registry.clients.map _).map _) = _
  rw [List.map_map]
  refine List.map_congr_left fun client member => ?_
  show (if (client.take registry.capacity event).isRegistered &&
        (registry.scan event).2.slow.contains (client.take registry.capacity event).id then
      { client.take registry.capacity event with standing := .evicted }
    else client.take registry.capacity event) = _
  unfold Client.offered Client.take
  cases registered : client.isRegistered with
  | false => simp [Client.reach, registered]
  | true =>
    have victim := registry.mem_slow_iff event distinct member registered
    cases reach : client.reach registry.capacity event.name with
    | skipped => simp [victim, reach]
    | reached => simp [victim, reach]
    | slow => simp [victim, reach, registered]

end Distinct

namespace Sound

theorem withCapacity (capacity : Nat) : (Registry.withCapacity capacity).Sound := ⟨rfl, rfl⟩

variable {registry : Registry}

theorem eq_of_id_eq (sound : registry.Sound) {client other : Client}
    (member : client ∈ registry.clients) (otherMember : other ∈ registry.clients)
    (same : client.id = other.id) : client = other :=
  List.inj_on_of_nodup_map (sound.ids ▸ List.nodup_range') member otherMember same

theorem client?_eq_some_iff (sound : registry.Sound) (id : Nat) (client : Client) :
    registry.client? id = some client ↔ client ∈ registry.clients ∧ client.id = id := by
  constructor
  · intro found
    exact ⟨List.mem_of_find?_eq_some found, by simpa using List.find?_some found⟩
  · rintro ⟨member, rfl⟩
    obtain ⟨other, found⟩ : ∃ other, registry.client? client.id = some other :=
      Option.isSome_iff_exists.mp (List.find?_isSome.mpr ⟨client, member, by simp⟩)
    have same : other.id = client.id := by simpa using List.find?_some found
    rw [found, sound.eq_of_id_eq (List.mem_of_find?_eq_some found) member same]

theorem id_lt_nextId (sound : registry.Sound) {client : Client}
    (member : client ∈ registry.clients) : client.id < registry.nextId := by
  have listed : client.id ∈ List.range' 1 registry.clients.length :=
    sound.ids ▸ List.mem_map_of_mem member
  rw [List.mem_range'_1] at listed
  have := sound.nextId
  omega

theorem nodup_members (sound : registry.Sound) : (registry.members.map (·.id)).Nodup :=
  (sound.ids ▸ List.nodup_range' : (registry.clients.map (·.id)).Nodup).sublist
    (List.filter_sublist.map _)

theorem clients_fanOut (sound : registry.Sound) (event : Event) :
    (registry.fanOut event).1.clients =
      registry.clients.map fun client => client.offered registry.capacity event :=
  registry.clients_fanOut_of_distinct event sound.nodup_members

theorem clients_receive (sound : registry.Sound) (id : Nat) :
    (registry.receive id).1.clients =
      registry.clients.map fun client => client.after registry.capacity (.receive id) := by
  have tail (client : Client) (found : registry.client? id = some client) (other : Client)
      (member : other ∈ registry.clients) :
      other.after registry.capacity (.receive id) =
        if other.id = id then { other with outbox := client.outbox.tail } else other := by
    rw [Client.after]
    obtain ⟨clientMember, clientId⟩ := (sound.client?_eq_some_iff id client).mp found
    by_cases own : other.id = id
    · rw [if_pos own, if_pos own,
        sound.eq_of_id_eq member clientMember (own.trans clientId.symm)]
    · rw [if_neg own, if_neg own]
  unfold receive
  cases found : registry.client? id with
  | none =>
    refine (List.map_id _).symm.trans (List.map_congr_left fun other member => ?_)
    have own : other.id ≠ id := fun same =>
      absurd ((sound.client?_eq_some_iff id other).mpr ⟨member, same⟩) (by simp [found])
    rw [Client.after, if_neg own]
    rfl
  | some client =>
    dsimp only
    cases outbox : client.outbox with
    | cons event rest =>
      refine List.map_congr_left fun other member => ?_
      rw [tail client found other member, outbox]
      rfl
    | nil =>
      refine (List.map_id _).symm.trans (List.map_congr_left fun other member => ?_)
      rw [tail client found other member]
      obtain ⟨clientMember, clientId⟩ := (sound.client?_eq_some_iff id client).mp found
      by_cases own : other.id = id
      · rw [if_pos own, sound.eq_of_id_eq member clientMember (own.trans clientId.symm), outbox,
          List.tail_nil, ← outbox]
        rfl
      · rw [if_neg own]
        rfl

/-- Every request acts on each client by itself. -/
theorem clients_perform (sound : registry.Sound) (request : Request) :
    (registry.perform request).1.clients =
      (registry.clients.map fun client => client.after registry.capacity request) ++
        registry.joining request := by
  cases request with
  | register =>
    show registry.register.1.clients = _
    unfold register joining
    rw [show (fun client : Client => client.after registry.capacity .register) = id from rfl,
      List.map_id]
    cases registry.closed <;> simp [Client.newcomer]
  | unregister id => exact (List.append_nil _).symm
  | setFilter id filter => exact (List.append_nil _).symm
  | control id text => exact (List.append_nil _).symm
  | fanOut event => exact (sound.clients_fanOut event).trans (List.append_nil _).symm
  | receive id => exact (sound.clients_receive id).trans (List.append_nil _).symm
  | dropReceiver id => exact (List.append_nil _).symm
  | shutdown => exact (List.append_nil _).symm

theorem mem_clients_perform_iff (sound : registry.Sound) (request : Request) (client : Client) :
    client ∈ (registry.perform request).1.clients ↔
      (∃ before ∈ registry.clients, before.after registry.capacity request = client) ∨
        client ∈ registry.joining request := by
  rw [sound.clients_perform, List.mem_append, List.mem_map]

/-- A newcomer gets the next identity. -/
theorem eq_newcomer {request : Request} {client : Client}
    (joins : client ∈ registry.joining request) :
    request = .register ∧ registry.joining .register = [client] ∧
      client = .newcomer registry.nextId := by
  cases request with
  | register =>
    rw [joining] at joins ⊢
    split at joins
    · cases joins
    · rw [if_neg ‹_›]
      rw [List.mem_singleton] at joins
      exact ⟨rfl, by rw [joins], joins⟩
  | _ => cases joins

/-- Whatever keeps identities, and numbers who comes, keeps a registry sound. -/
theorem of_clients (sound : registry.Sound) {later : Registry} {change : Client → Client}
    {joining : List Client} (sameId : ∀ client, (change client).id = client.id)
    (numbered : joining.map (·.id) = List.range' registry.nextId joining.length)
    (clients : later.clients = registry.clients.map change ++ joining)
    (nextId : later.nextId = registry.nextId + joining.length) : later.Sound := by
  have sameIds : registry.clients.map ((·.id) ∘ change) = registry.clients.map (·.id) :=
    List.map_congr_left fun client _ => sameId client
  constructor
  · rw [clients, List.map_append, List.map_map, sameIds, sound.ids, numbered,
      List.length_append, List.length_map, sound.nextId, Nat.add_comm _ 1, List.range'_append_1]
  · rw [nextId, sound.nextId, clients, List.length_append, List.length_map]
    omega

theorem perform (sound : registry.Sound) (request : Request) :
    (registry.perform request).1.Sound :=
  sound.of_clients (fun client => client.after_id registry.capacity request)
    (registry.map_id_joining request) (sound.clients_perform request)
    (registry.nextId_perform request)

theorem run (sound : registry.Sound) (requests : List Request) :
    (Machine.run Registry.perform registry requests).Sound :=
  Machine.run_invariant Registry.perform Sound (fun _ request sound => sound.perform request)
    sound requests

end Sound

end Registry

end ServerMonitor
