/-
This file follows clients out of the registry. Whatever is done to the registry
changes each client by itself and registers none anew, so a client that is gone
stays gone, and it departs once however many parties try to remove it. Most of
what is done for a client changes no other.
-/

import ServerMonitor.Proofs.Hub.Overlap

namespace ServerMonitor.Registry

/-! ### Registries that come of each other -/

/-- Whether a registry comes of another by changing each client by itself, registering none anew,
and adding newcomers under the next identities. -/
structure Evolves (registry later : Registry) (change : Client → Client)
    (joining : List Client) : Prop where
  sameId : ∀ client, (change client).id = client.id
  staysOut : ∀ client, client.isRegistered = false → (change client).isRegistered = false
  numbered : joining.map (·.id) = List.range' registry.nextId joining.length
  registered : ∀ client ∈ joining, client.isRegistered = true
  clients : later.clients = registry.clients.map change ++ joining
  nextId : later.nextId = registry.nextId + joining.length

/-- Whether a request is about one client and does not register it. -/
def Request.isAbout (own : Nat) : Request → Bool
  | unregister id | setFilter id _ | control id _ | receive id | dropReceiver id => id = own
  | register | fanOut _ | shutdown => false

/-- Whether a registry comes of another by requests about one client. -/
def AltersOnly (own : Nat) (registry later : Registry) : Prop :=
  ∃ requests : List Request, (∀ request ∈ requests, request.isAbout own = true) ∧
    Machine.run perform registry requests = later

namespace Evolves

variable {registry later : Registry} {change : Client → Client} {joining : List Client}

theorem refl (registry : Registry) : registry.Evolves registry id [] where
  sameId _ := rfl
  staysOut _ gone := gone
  numbered := rfl
  registered := List.forall_mem_nil _
  clients := by rw [List.map_id, List.append_nil]
  nextId := rfl

theorem sound (evolves : registry.Evolves later change joining) (sound : registry.Sound) :
    later.Sound :=
  sound.of_clients evolves.sameId evolves.numbered evolves.clients evolves.nextId

/-- What evolves further has changed twice; newcomers are to stay as long as that. -/
theorem trans {last : Registry} {next : Client → Client}
    (first : registry.Evolves later change joining) (second : later.Evolves last next [])
    (stay : ∀ client ∈ joining, (next client).isRegistered = true) :
    registry.Evolves last (next ∘ change) (joining.map next) where
  sameId client := (second.sameId _).trans (first.sameId client)
  staysOut client gone := second.staysOut _ (first.staysOut client gone)
  numbered := by
    rw [List.map_map, List.length_map, ← first.numbered]
    exact List.map_congr_left fun client _ => second.sameId client
  registered := List.forall_mem_map.mpr stay
  clients := by rw [second.clients, first.clients, List.append_nil, List.map_append, List.map_map]
  nextId := by rw [second.nextId, first.nextId, List.length_map]; rfl

theorem mem_clients (evolves : registry.Evolves later change joining) {client : Client}
    (member : client ∈ registry.clients) : change client ∈ later.clients :=
  evolves.clients ▸ List.mem_append_left _ (List.mem_map_of_mem member)

theorem map_id_clients (evolves : registry.Evolves later change joining) :
    later.clients.map (·.id) = registry.clients.map (·.id) ++ joining.map (·.id) := by
  rw [evolves.clients, List.map_append, List.map_map]
  exact congrArg (· ++ _) (List.map_congr_left fun client _ => evolves.sameId client)

theorem contains_of_mem (evolves : registry.Evolves later change joining)
    (sound : registry.Sound) {client : Client} (member : client ∈ registry.clients) :
    later.contains client.id = (change client).isRegistered := by
  rw [← evolves.sameId client]
  exact (evolves.sound sound).contains_of_mem (evolves.mem_clients member)

/-- Every client is found again as what it has changed to. -/
theorem client?_of_found (evolves : registry.Evolves later change joining)
    (sound : registry.Sound) {id : Nat} {client : Client}
    (found : registry.client? id = some client) : later.client? id = some (change client) := by
  obtain ⟨member, rfl⟩ := (sound.client?_eq_some_iff id client).mp found
  exact ((evolves.sound sound).client?_eq_some_iff client.id _).mpr
    ⟨evolves.mem_clients member, evolves.sameId client⟩

/-- Who is not registered will not be. -/
theorem contains_eq_false (evolves : registry.Evolves later change joining)
    (sound : registry.Sound) {client : Client} (member : client ∈ registry.clients)
    (gone : registry.contains client.id = false) : later.contains client.id = false := by
  rw [evolves.contains_of_mem sound member]
  exact evolves.staysOut client ((sound.contains_of_mem member).symm.trans gone)

end Evolves

/-- Every request is answered by changing each client by itself. -/
theorem Sound.evolves_perform {registry : Registry} (sound : registry.Sound)
    (request : Request) :
    registry.Evolves (registry.perform request).1 (·.after registry.capacity request)
      (registry.joining request) where
  sameId client := client.after_id _ request
  staysOut client gone := by
    rw [Client.isRegistered, Client.standing_after_of_not_registered _ request gone]
    exact gone
  numbered := registry.map_id_joining request
  registered client joins := by
    obtain ⟨-, -, rfl⟩ := Sound.eq_newcomer joins
    rfl
  clients := sound.clients_perform request
  nextId := registry.nextId_perform request

/-- The removal of clients that were found slow, whichever they are. -/
theorem evolves_evict (registry : Registry) (slow : List Nat) :
    registry.Evolves (registry.evict slow).1 (fun client =>
      if client.isRegistered && slow.contains client.id then { client with standing := .evicted }
      else client) [] where
  sameId client := by split <;> rfl
  staysOut client gone := by
    rw [gone, Bool.false_and, if_neg Bool.false_ne_true]
    exact gone
  numbered := rfl
  registered := List.forall_mem_nil _
  clients := (List.append_nil _).symm
  nextId := rfl

/-! ### Changes of one client -/

theorem evolves_update (registry : Registry) (own : Nat) {change : Client → Client}
    (sameId : ∀ client, (change client).id = client.id)
    (staysOut : ∀ client, client.isRegistered = false → (change client).isRegistered = false) :
    registry.Evolves (registry.update own change)
      (fun client => if client.id = own then change client else client) [] where
  sameId client := by
    split
    · exact sameId client
    · rfl
  staysOut client gone := by
    split
    · exact staysOut client gone
    · exact gone
  numbered := rfl
  registered := List.forall_mem_nil _
  clients := (List.append_nil _).symm
  nextId := rfl

theorem update_id (registry : Registry) (own : Nat) : registry.update own id = registry := by
  have same : (fun client : Client => if client.id = own then id client else client) = id := by
    funext client
    exact ite_self client
  rw [update, same, List.map_id]

/-- A request about one client updates it and no other. -/
theorem perform_of_isAbout {own : Nat} (registry : Registry) {request : Request}
    (about : request.isAbout own = true) :
    ∃ change : Client → Client, (∀ client, (change client).id = client.id) ∧
      (∀ client, client.isRegistered = false → (change client).isRegistered = false) ∧
      (registry.perform request).1 = registry.update own change := by
  have nothing := registry.update_id own
  cases request with
  | register | fanOut | shutdown => cases about
  | unregister other =>
    obtain rfl : other = own := of_decide_eq_true about
    refine ⟨_, fun client => ?_, fun client gone => ?_, rfl⟩
    · split <;> rfl
    · rw [gone, if_neg Bool.false_ne_true]
      exact gone
  | setFilter other _ | control other _ | dropReceiver other =>
    obtain rfl : other = own := of_decide_eq_true about
    refine ⟨_, ?_, ?_, rfl⟩
    · exact fun _ => rfl
    · exact fun _ gone => gone
  | receive other =>
    obtain rfl : other = own := of_decide_eq_true about
    show ∃ change : Client → Client, _ ∧ _ ∧ (registry.receive other).1 = _
    unfold Registry.receive
    split
    · exact ⟨id, fun _ => rfl, fun _ gone => gone, nothing.symm⟩
    · split
      · refine ⟨_, ?_, ?_, rfl⟩
        · exact fun _ => rfl
        · exact fun _ gone => gone
      · exact ⟨id, fun _ => rfl, fun _ gone => gone, nothing.symm⟩

theorem update_update (registry : Registry) (id : Nat) {change : Client → Client}
    (sameId : ∀ client, (change client).id = client.id) (next : Client → Client) :
    (registry.update id change).update id next = registry.update id (next ∘ change) := by
  simp only [update, List.map_map]
  congr 2
  funext client
  by_cases here : client.id = id
  · simp [here, sameId]
  · simp [here]

theorem id_of_found (registry : Registry) {id : Nat} {client : Client}
    (found : registry.client? id = some client) : client.id = id := by
  rw [client?] at found
  simpa using List.find?_some found

theorem client?_update (registry : Registry) (id : Nat) {change : Client → Client}
    (sameId : ∀ client, (change client).id = client.id) :
    (registry.update id change).client? id = (registry.client? id).map change := by
  have sameTest : ((fun client : Client => decide (client.id = id)) ∘ fun client =>
      if client.id = id then change client else client) =
      fun client => decide (client.id = id) := by
    funext client
    by_cases here : client.id = id <;> simp [here, sameId]
  rw [client?, client?, update, List.find?_map, sameTest]
  cases found : registry.clients.find? fun client => decide (client.id = id) with
  | none => rfl
  | some client =>
    have same : client.id = id := by simpa using List.find?_some found
    exact congrArg some (if_pos same)

namespace AltersOnly

variable {own : Nat} {registry later last : Registry}

theorem refl (own : Nat) (registry : Registry) : AltersOnly own registry registry :=
  ⟨[], List.forall_mem_nil _, rfl⟩

theorem trans (first : AltersOnly own registry later) (second : AltersOnly own later last) :
    AltersOnly own registry last := by
  obtain ⟨requests, about, rfl⟩ := first
  obtain ⟨more, aboutMore, rfl⟩ := second
  exact ⟨requests ++ more, List.forall_mem_append.mpr ⟨about, aboutMore⟩,
    Machine.run_append perform registry requests more⟩

theorem single (registry : Registry) (request : Request) (about : request.isAbout own = true) :
    AltersOnly own registry (registry.perform request).1 :=
  ⟨[request], List.forall_mem_singleton.mpr about, rfl⟩

theorem dropReceiver (own : Nat) (registry : Registry) :
    AltersOnly own registry (registry.dropReceiver own) :=
  single registry (.dropReceiver own) (decide_eq_true rfl)

theorem control (own : Nat) (registry : Registry) (text : String) :
    AltersOnly own registry (registry.control own text) :=
  single registry (.control own text) (decide_eq_true rfl)

theorem unregister (own : Nat) (registry : Registry) :
    AltersOnly own registry (registry.unregister own).1 :=
  single registry (.unregister own) (decide_eq_true rfl)

theorem receive (own : Nat) (registry : Registry) :
    AltersOnly own registry (registry.receive own).1 :=
  single registry (.receive own) (decide_eq_true rfl)

theorem eq_update (alters : AltersOnly own registry later) :
    ∃ change : Client → Client, (∀ client, (change client).id = client.id) ∧
      (∀ client, client.isRegistered = false → (change client).isRegistered = false) ∧
      later = registry.update own change := by
  obtain ⟨requests, about, rfl⟩ := alters
  induction requests using List.reverseRecOn with
  | nil => exact ⟨id, fun _ => rfl, fun _ gone => gone, (registry.update_id own).symm⟩
  | append_singleton past request inductionHypothesis =>
    obtain ⟨aboutPast, aboutLast⟩ := List.forall_mem_append.mp about
    obtain ⟨change, sameId, staysOut, before⟩ := inductionHypothesis aboutPast
    obtain ⟨next, sameIdNext, staysOutNext, updated⟩ :=
      perform_of_isAbout (Machine.run perform registry past)
        (aboutLast request (List.mem_singleton_self request))
    refine ⟨next ∘ change, fun client => (sameIdNext _).trans (sameId client),
      fun client gone => staysOutNext _ (staysOut client gone), ?_⟩
    rw [Machine.run_concat, updated, before, update_update registry own sameId]

theorem evolves (alters : AltersOnly own registry later) :
    ∃ change, registry.Evolves later change [] := by
  obtain ⟨change, sameId, staysOut, rfl⟩ := alters.eq_update
  exact ⟨_, registry.evolves_update own sameId staysOut⟩

theorem client?_of_ne (alters : AltersOnly own registry later) {other : Nat}
    (different : other ≠ own) : later.client? other = registry.client? other := by
  obtain ⟨change, sameId, -, rfl⟩ := alters.eq_update
  have sameTest : ((fun client : Client => decide (client.id = other)) ∘ fun client =>
      if client.id = own then change client else client) =
      fun client => decide (client.id = other) := by
    funext client
    by_cases here : client.id = own <;> simp [here, sameId]
  show ((registry.clients.map _).find? _) = registry.clients.find? _
  rw [List.find?_map, sameTest]
  cases found : registry.clients.find? fun client => decide (client.id = other) with
  | none => rfl
  | some client =>
    have same : client.id = other := by simpa using List.find?_some found
    exact congrArg some (if_neg (same ▸ different))

theorem map_id_clients (alters : AltersOnly own registry later) :
    later.clients.map (·.id) = registry.clients.map (·.id) := by
  obtain ⟨change, evolves⟩ := alters.evolves
  rw [evolves.map_id_clients]
  exact List.append_nil _

end AltersOnly

/-- Who was unregistered is not registered. -/
theorem contains_unregister (registry : Registry) (id : Nat) :
    (registry.unregister id).1.contains id = false := by
  refine Bool.eq_false_iff.mpr fun found => ?_
  obtain ⟨client, member, own⟩ := List.any_eq_true.mp found
  obtain ⟨present, registered⟩ := List.mem_filter.mp member
  obtain ⟨before, -, rfl⟩ := List.mem_map.mp present
  by_cases same : before.id = id
  · rw [if_pos same] at registered
    dsimp only at registered
    split at registered
    · cases registered
    · rename_i gone
      exact gone registered
  · rw [if_neg same] at own
    exact same (of_decide_eq_true own)

/-! ### Departures -/

/-- The clients that were registered and are no more. -/
def departed (registry later : Registry) : List Nat :=
  (registry.members.map (·.id)).filter fun id => !later.contains id

theorem Sound.nodup_departed {registry : Registry} (sound : registry.Sound) (later : Registry) :
    (registry.departed later).Nodup :=
  (sound.ids ▸ List.nodup_range' : (registry.clients.map (·.id)).Nodup).sublist
    (List.filter_sublist.trans (List.filter_sublist.map _))

theorem departed_subset (registry later : Registry) :
    registry.departed later ⊆ registry.clients.map (·.id) :=
  (List.filter_sublist.trans (List.filter_sublist.map _)).subset

/-- A client departs when it is registered before and not after. -/
theorem Evolves.count_departed {registry later : Registry} {change : Client → Client}
    {joining : List Client} (evolves : registry.Evolves later change joining)
    (sound : registry.Sound) {client : Client} (member : client ∈ registry.clients) :
    (registry.departed later).count client.id =
      if client.isRegistered && !(change client).isRegistered then 1 else 0 := by
  have departs : client.id ∈ registry.departed later ↔
      client.isRegistered = true ∧ (change client).isRegistered = false := by
    rw [departed, List.mem_filter, evolves.contains_of_mem sound member, Bool.not_eq_true',
      List.mem_map]
    refine and_congr_left fun _ => ⟨?_, fun registered =>
      ⟨client, List.mem_filter.mpr ⟨member, registered⟩, rfl⟩⟩
    rintro ⟨other, present, same⟩
    obtain ⟨otherMember, registered⟩ := List.mem_filter.mp present
    exact sound.eq_of_id_eq otherMember member same ▸ registered
  split
  · rename_i leaves
    rw [Bool.and_eq_true, Bool.not_eq_true'] at leaves
    exact List.count_eq_one_of_mem (sound.nodup_departed later) (departs.mpr leaves)
  · rename_i stays
    refine List.count_eq_zero_of_not_mem fun found => stays ?_
    obtain ⟨before, after⟩ := departs.mp found
    rw [before, after]
    rfl

end ServerMonitor.Registry
