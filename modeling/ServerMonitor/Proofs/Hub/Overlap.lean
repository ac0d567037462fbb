/-
This file lets fan-outs overlap. A fan-out scans the clients, removes those that
had no room, and adds to the two counters in turns of its own; between them the
registry can be asked for anything, and other fan-outs can take their turns. A
fan-out that is not interrupted is the fan-out of the registry. What a turn does
to a client depends on that client alone, so the clients, and who was removed
when, can be followed through any run.
-/

import Mathlib.Algebra.BigOperators.Group.List.Basic
import Mathlib.Algebra.Ring.Nat
import ServerMonitor.Proofs.Hub.Stream

namespace ServerMonitor

open Registry (Request Reply)

/-- How far a fan-out has come. -/
inductive FanOut
  /-- It has queued its event and found the clients without room. -/
  | scanned (found : Registry.Scan)
  /-- It has removed clients and has yet to count them. -/
  | removed (reached evicted : Nat)
  /-- It has yet to count the clients that it reached. -/
  | recorded (reached : Nat)

namespace FanOut

/-- How many clients a fan-out reached. -/
def reached : FanOut → Nat
  | scanned found => found.reached
  | removed reached _ | recorded reached => reached

/-- How many clients a fan-out removed without having counted them. -/
def uncounted : FanOut → Nat
  | removed _ evicted => evicted
  | scanned _ | recorded _ => 0

end FanOut

namespace Client

@[simp] theorem take_id (client : Client) (capacity : Nat) (event : Event) :
    (client.take capacity event).id = client.id := by
  unfold take
  split <;> rfl

@[simp] theorem take_standing (client : Client) (capacity : Nat) (event : Event) :
    (client.take capacity event).standing = client.standing := by
  unfold take
  split <;> rfl

end Client

/-- A registry and the fan-outs that are in progress on it. -/
structure SharedRegistry where
  registry : Registry
  fanOuts : List FanOut

namespace SharedRegistry

/-! ### Turns -/

inductive Turn
  /-- Something is asked of the registry. A fan-out that is asked for scans the clients. -/
  | request (request : Request)
  /-- A fan-out in progress does what comes next. -/
  | proceed (index : Nat)

/-- What a turn does, and what it answers. -/
def perform : Machine SharedRegistry Turn (Option Reply)
  | shared, .request (.fanOut event) =>
    let (registry, found) := shared.registry.scan event
    (⟨registry, shared.fanOuts ++ [.scanned found]⟩, none)
  | shared, .request request =>
    let (registry, reply) := shared.registry.perform request
    ({ shared with registry }, some reply)
  | shared, .proceed index =>
    match shared.fanOuts[index]? with
    | some (.scanned found) =>
      let (registry, evicted) := shared.registry.evict found.slow
      (⟨registry, shared.fanOuts.set index (.removed found.reached evicted)⟩, none)
    | some (.removed reached evicted) =>
      (⟨shared.registry.count 0 evicted, shared.fanOuts.set index (.recorded reached)⟩, none)
    | some (.recorded reached) =>
      (⟨shared.registry.count reached 0, shared.fanOuts.eraseIdx index⟩, some (.reached reached))
    | none => (shared, none)

/-- A request is a fan-out or it is not. -/
theorem eq_fanOut_or (request : Request) :
    (∃ event, request = .fanOut event) ∨ ∀ event, request ≠ .fanOut event := by
  cases request with
  | fanOut event => exact .inl ⟨event, rfl⟩
  | _ => exact .inr fun _ same => by cases same

/-- Whatever is not a fan-out is answered by the registry in one turn. -/
theorem perform_request (shared : SharedRegistry) {request : Request}
    (other : ∀ event, request ≠ .fanOut event) :
    shared.perform (.request request) =
      ({ shared with registry := (shared.registry.perform request).1 },
        some (shared.registry.perform request).2) := by
  cases request with
  | fanOut event => exact absurd rfl (other event)
  | _ => rfl

/-- A fan-out that is not interrupted does what the registry does. -/
theorem run_uninterrupted (shared : SharedRegistry) (event : Event) :
    let proceed := Turn.proceed shared.fanOuts.length
    let turns := [.request (.fanOut event), proceed, proceed, proceed]
    Machine.run perform shared turns =
        { shared with registry := (shared.registry.fanOut event).1 } ∧
      Machine.replies perform shared turns =
        [none, none, none, some (.reached (shared.registry.fanOut event).2)] := by
  constructor <;>
    simp [Machine.run, Machine.replies, perform, Registry.fanOut, Registry.count,
      List.eraseIdx_append_of_length_le]

/-! ### What a turn does to the clients -/

/-- What a turn does to each client. -/
def change (shared : SharedRegistry) : Turn → Client → Client
  | .request (.fanOut event) => fun client => client.take shared.registry.capacity event
  | .request request => fun client => client.after shared.registry.capacity request
  | .proceed index =>
    match shared.fanOuts[index]? with
    | some (.scanned found) => fun client =>
      if client.isRegistered && found.slow.contains client.id then
        { client with standing := .evicted }
      else client
    | _ => id

theorem change_request (shared : SharedRegistry) {request : Request}
    (other : ∀ event, request ≠ .fanOut event) :
    shared.change (.request request) =
      fun client => client.after shared.registry.capacity request := by
  cases request with
  | fanOut event => exact absurd rfl (other event)
  | _ => rfl

/-- The client that a turn adds. -/
def joining (shared : SharedRegistry) : Turn → List Client
  | .request request => shared.registry.joining request
  | .proceed _ => []

theorem clients_perform {shared : SharedRegistry} (sound : shared.registry.Sound) (turn : Turn) :
    (shared.perform turn).1.registry.clients =
      shared.registry.clients.map (shared.change turn) ++ shared.joining turn := by
  cases turn with
  | request request =>
    rcases eq_fanOut_or request with ⟨event, rfl⟩ | other
    · exact (List.append_nil _).symm
    · rw [shared.perform_request other, shared.change_request other]
      exact sound.clients_perform request
  | proceed index =>
    show _ = _ ++ []
    rw [List.append_nil, perform, change]
    cases shared.fanOuts[index]? with
    | none => exact (List.map_id _).symm
    | some fanOut =>
      cases fanOut with
      | scanned found => rfl
      | removed reached evicted => exact (List.map_id _).symm
      | recorded reached => exact (List.map_id _).symm

theorem nextId_perform (shared : SharedRegistry) (turn : Turn) :
    (shared.perform turn).1.registry.nextId =
      shared.registry.nextId + (shared.joining turn).length := by
  cases turn with
  | request request =>
    rcases eq_fanOut_or request with ⟨event, rfl⟩ | other
    · rfl
    · rw [shared.perform_request other]
      exact shared.registry.nextId_perform request
  | proceed index =>
    rw [perform]
    split <;> rfl

theorem change_id (shared : SharedRegistry) (turn : Turn) (client : Client) :
    (shared.change turn client).id = client.id := by
  cases turn with
  | request request =>
    rcases eq_fanOut_or request with ⟨event, rfl⟩ | other
    · exact client.take_id _ event
    · rw [shared.change_request other, Client.after_id]
  | proceed index =>
    rw [change]
    match shared.fanOuts[index]? with
    | some (.scanned found) =>
      dsimp only
      split <;> rfl
    | some (.removed _ _) | some (.recorded _) | none => rfl

theorem sound_perform {shared : SharedRegistry} (sound : shared.registry.Sound) (turn : Turn) :
    (shared.perform turn).1.registry.Sound := by
  have numbered : (shared.joining turn).map (·.id) =
      List.range' shared.registry.nextId (shared.joining turn).length := by
    cases turn with
    | request request => exact shared.registry.map_id_joining request
    | proceed index => rfl
  exact sound.of_clients (shared.change_id turn) numbered (clients_perform sound turn)
    (shared.nextId_perform turn)

/-! ### Removal -/

/-- Whether a turn gives a registered client this standing: an unregistration, the removal of the
clients that a fan-out found slow, or a shutdown. -/
def expels (shared : SharedRegistry) (standing : Standing) : Turn → Client → Bool
  | .request (.unregister id) => fun client => standing = .left && client.id = id
  | .request .shutdown => fun _ => standing = .cleared
  | .request _ => fun _ => false
  | .proceed index =>
    match shared.fanOuts[index]? with
    | some (.scanned found) => fun client =>
      standing = .evicted && found.slow.contains client.id
    | _ => fun _ => false

/-- The clients that a turn removes, by the standing that they have from then on. -/
def removed (shared : SharedRegistry) (standing : Standing) (turn : Turn) : List Nat :=
  (shared.registry.members.filter (shared.expels standing turn)).map (·.id)

/-- The clients that stand so with the registry. -/
def withStanding (registry : Registry) (standing : Standing) : List Nat :=
  (registry.clients.filter fun client => client.standing = standing).map (·.id)

theorem nodup_removed {shared : SharedRegistry} (sound : shared.registry.Sound)
    (standing : Standing) (turn : Turn) : (shared.removed standing turn).Nodup :=
  (sound.ids ▸ List.nodup_range' : (shared.registry.clients.map (·.id)).Nodup).sublist
    ((List.filter_sublist.trans List.filter_sublist).map _)

theorem removed_eq_nil {shared : SharedRegistry} {standing : Standing} {turn : Turn}
    (none : ∀ client, shared.expels standing turn client = false) :
    shared.removed standing turn = [] := by
  rw [removed, List.filter_eq_nil_iff.mpr fun client _ => by simp [none client], List.map_nil]

theorem isRegistered_iff (client : Client) :
    client.isRegistered = true ↔ client.standing = .registered := by
  rw [Client.isRegistered, decide_eq_true_eq]

/-- A turn gives a client a new standing if it expels it, and only while it is registered. -/
theorem standing_change (shared : SharedRegistry) (turn : Turn) (client : Client)
    {standing : Standing} (gone : standing ≠ .registered) :
    (shared.change turn client).standing = standing ↔
      client.standing = standing ∨
        client.isRegistered = true ∧ shared.expels standing turn client = true := by
  have removed (other : Standing) : (client.removed other).standing = standing ↔
      client.standing = standing ∨ client.isRegistered = true ∧ standing = other := by
    have registered := isRegistered_iff client
    unfold Client.removed
    by_cases member : client.isRegistered = true
    · simp [member, registered.mp member, Ne.symm gone, eq_comm]
    · simp [member]
  cases turn with
  | request request =>
    cases request with
    | fanOut event => simp [change, expels]
    | unregister id =>
      by_cases own : client.id = id
      · simpa [change, Client.after, expels, own] using removed .left
      · simp [change, Client.after, expels, own]
    | shutdown => simpa [change, Client.after, expels] using removed .cleared
    | register => simp [change, Client.after, expels]
    | setFilter id _ | control id _ | receive id | dropReceiver id =>
      by_cases own : client.id = id <;> simp [change, Client.after, expels, own]
  | proceed index =>
    rw [change, expels]
    cases shared.fanOuts[index]? with
    | none => simp
    | some fanOut =>
      cases fanOut with
      | scanned found =>
        have evicted := removed .evicted
        by_cases slow : found.slow.contains client.id = true
        · simpa [Client.removed, slow, -List.contains_eq_mem] using evicted
        · simp [slow, -List.contains_eq_mem]
      | removed _ _ | recorded _ => simp

/-- Whoever a turn removes stands so from then on, beside those who stood so before. -/
theorem withStanding_perform {shared : SharedRegistry} (sound : shared.registry.Sound)
    (turn : Turn) {standing : Standing} (gone : standing ≠ .registered) :
    (withStanding (shared.perform turn).1.registry standing).Perm
      (withStanding shared.registry standing ++ shared.removed standing turn) := by
  have once : (shared.registry.clients.map (·.id)).Nodup := sound.ids ▸ List.nodup_range'
  have onceAfter : ((shared.perform turn).1.registry.clients.map (·.id)).Nodup :=
    (sound_perform sound turn).ids ▸ List.nodup_range'
  refine (List.perm_ext_iff_of_nodup (onceAfter.sublist (List.filter_sublist.map _)) ?_).mpr
    fun id => ?_
  · refine List.nodup_append.mpr ⟨once.sublist (List.filter_sublist.map _),
      nodup_removed sound standing turn, ?_⟩
    intro id earlier other now same
    obtain ⟨client, found, rfl⟩ := List.mem_map.mp earlier
    obtain ⟨victim, expelled, rfl⟩ := List.mem_map.mp now
    obtain ⟨clientMember, stands⟩ := List.mem_filter.mp found
    obtain ⟨victimMember, registered⟩ := List.mem_filter.mp (List.mem_filter.mp expelled).1
    rw [← sound.eq_of_id_eq clientMember victimMember same, isRegistered_iff,
      of_decide_eq_true stands] at registered
    exact gone registered
  · have joins (client : Client) (member : client ∈ shared.joining turn) :
        client.standing = .registered := by
      cases turn with
      | request request => exact (Registry.Sound.eq_newcomer member).2.2 ▸ rfl
      | proceed index => cases member
    rw [List.mem_append, withStanding, List.mem_map, clients_perform sound]
    constructor
    · rintro ⟨client, found, rfl⟩
      obtain ⟨member, stands⟩ := List.mem_filter.mp found
      rcases List.mem_append.mp member with old | new
      · obtain ⟨before, present, rfl⟩ := List.mem_map.mp old
        rw [change_id]
        rcases (shared.standing_change turn before gone).mp (of_decide_eq_true stands) with
          stood | ⟨registered, expelled⟩
        · exact .inl (List.mem_map_of_mem (List.mem_filter.mpr ⟨present, decide_eq_true stood⟩))
        · exact .inr (List.mem_map_of_mem
            (List.mem_filter.mpr ⟨List.mem_filter.mpr ⟨present, registered⟩, expelled⟩))
      · exact absurd ((of_decide_eq_true stands).symm.trans (joins client new)) gone
    · have stays (client : Client) (present : client ∈ shared.registry.clients)
          (stands : (shared.change turn client).standing = standing) :
          ∃ later ∈ (shared.registry.clients.map (shared.change turn) ++
            shared.joining turn).filter fun later => later.standing = standing,
            later.id = client.id :=
        ⟨_, List.mem_filter.mpr ⟨List.mem_append_left _ (List.mem_map_of_mem present),
          decide_eq_true stands⟩, shared.change_id turn client⟩
      rintro (earlier | now)
      · obtain ⟨client, found, rfl⟩ := List.mem_map.mp earlier
        obtain ⟨present, stood⟩ := List.mem_filter.mp found
        exact stays client present ((shared.standing_change turn client gone).mpr
          (.inl (of_decide_eq_true stood)))
      · obtain ⟨client, found, rfl⟩ := List.mem_map.mp now
        obtain ⟨member, expelled⟩ := List.mem_filter.mp found
        obtain ⟨present, registered⟩ := List.mem_filter.mp member
        exact stays client present ((shared.standing_change turn client gone).mpr
          (.inr ⟨registered, expelled⟩))

end SharedRegistry

end ServerMonitor
