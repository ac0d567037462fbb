/-
This file states what a fan-out makes of the clients. Who gets the event and who is
removed depends on each client by itself. The registered clients are passed one after
the other, in whatever order they are kept, and those without room are removed one
after the other when all have been passed; so the order makes no difference.
-/

import ServerMonitor.Proofs.Hub.Loop

namespace ServerMonitor

/-! ### Three groups of clients -/

namespace Client

/-- Whether a client is registered and its filter accepts events with this name. -/
def isAddressed (client : Client) (name : String) : Bool :=
  client.isRegistered && client.filter.accepts name

/-- Whether someone receives from the outbox and there is room in it. -/
def hasRoom (client : Client) (capacity : Nat) : Bool :=
  client.listening && client.outbox.length < capacity

variable {client : Client} {capacity : Nat} {name : String}

theorem reach_eq_reached_iff :
    client.reach capacity name = .reached ↔
      (client.isAddressed name && client.hasRoom capacity) = true := by
  unfold reach isAddressed hasRoom
  cases client.isRegistered <;> cases client.filter.accepts name <;>
    cases client.listening && client.outbox.length < capacity <;> decide

theorem reach_eq_slow_iff :
    client.reach capacity name = .slow ↔
      (client.isAddressed name && !client.hasRoom capacity) = true := by
  unfold reach isAddressed hasRoom
  cases client.isRegistered <;> cases client.filter.accepts name <;>
    cases client.listening && client.outbox.length < capacity <;> decide

/-- A fan-out adds the event to the outbox of an addressed client that has room, removes one that
has none and leaves all others alone. -/
theorem offered_eq (client : Client) (capacity : Nat) (event : Event) :
    client.offered capacity event =
      if !client.isAddressed event.name then client
      else if client.hasRoom capacity then { client with outbox := client.outbox ++ [event] }
      else { client with standing := .evicted } := by
  unfold offered reach isAddressed hasRoom
  cases client.isRegistered <;> cases client.filter.accepts event.name <;>
    cases client.listening && client.outbox.length < capacity <;> rfl

/-- Only an addressed client without room is removed. -/
theorem isRegistered_offered (client : Client) (capacity : Nat) (event : Event) :
    (client.offered capacity event).isRegistered =
      ((!client.isAddressed event.name || client.hasRoom capacity) && client.isRegistered) := by
  rw [offered_eq]
  cases client.isAddressed event.name <;> cases client.hasRoom capacity <;> rfl

/-- Nothing is queued for a client that is not registered. -/
theorem reach_of_not_registered (capacity : Nat) (name : String)
    (gone : client.isRegistered = false) : client.reach capacity name = .skipped := by
  rw [reach, gone]
  rfl

theorem take_of_not_registered (capacity : Nat) (event : Event)
    (gone : client.isRegistered = false) : client.take capacity event = client := by
  rw [take, reach_of_not_registered capacity event.name gone]
  rfl

end Client

namespace Registry

/-! ### One client after the other -/

/-- The scan of a fan-out that passes clients in the given order. -/
def scanInOrder (registry : Registry) (event : Event) (order : List Nat) : Registry × Scan :=
  order.foldl (fun (registry, found) id =>
    let (registry, more) := registry.scanOnly event fun other => other = id
    (registry, found.add more)) (registry, ⟨0, []⟩)

/-- Removes the clients that a scan found slow in the order in which it found them. -/
def evictInOrder (registry : Registry) (slow : List Nat) : Registry × Nat :=
  slow.foldl (fun (registry, evicted) id =>
    let (registry, more) := registry.evict [id]
    (registry, evicted + more)) (registry, 0)

/-- A fan-out that passes the clients in the given order. -/
def fanOutInOrder (registry : Registry) (event : Event) (order : List Nat) : Registry × Nat :=
  let (scanned, found) := registry.scanInOrder event order
  let (remaining, evicted) := scanned.evictInOrder found.slow
  (remaining.count found.reached evicted, found.reached)

/-- The clients that were passed so far make a part of the scan. -/
theorem scanInOrder_eq (registry : Registry) (event : Event) {order : List Nat}
    (once : order.Nodup) :
    (registry.scanInOrder event order).1 = (registry.scanOnly event order.contains).1 ∧
      (registry.scanInOrder event order).2.Similar
        (registry.scanOnly event order.contains).2 := by
  induction order using List.reverseRecOn with
  | nil => exact ⟨by simp [scanInOrder, scanOnly], by simp [scanInOrder, scanOnly],
      by simp [scanInOrder, scanOnly]⟩
  | append_singleton earlier id inductionHypothesis =>
    obtain ⟨before, -, apart⟩ := List.nodup_append.mp once
    have new : id ∉ earlier := fun member =>
      apart id member id (List.mem_singleton_self id) rfl
    obtain ⟨scanned, similar⟩ := inductionHypothesis before
    obtain ⟨twice, together⟩ := registry.scanOnly_scanOnly event earlier.contains
      (fun other => other = id) (by grind)
    have both : (fun other => earlier.contains other || decide (other = id)) =
        (earlier ++ [id]).contains := by
      funext other
      simp
    rw [both] at twice together
    rw [scanInOrder, List.foldl_concat, ← scanInOrder]
    dsimp only
    rw [scanned]
    exact ⟨twice, similar.add together⟩

/-- A scan that leaves out nobody but clients that are not registered is the whole scan. -/
theorem scanOnly_of_members (registry : Registry) (event : Event) {picked : Nat → Bool}
    (all : ∀ client ∈ registry.members, picked client.id = true) :
    registry.scanOnly event picked = registry.scan event := by
  have skipped (client : Client) (member : client ∈ registry.clients)
      (left : picked client.id = false) : client.isRegistered = false := by
    refine Bool.eq_false_iff.mpr fun registered => ?_
    rw [all client (List.mem_filter.mpr ⟨member, registered⟩)] at left
    cases left
  have sameReach (outcome : Reach) (counts : outcome ≠ .skipped) (client : Client)
      (member : client ∈ registry.clients) :
      (picked client.id && decide (client.reach registry.capacity event.name = outcome)) =
        decide (client.reach registry.capacity event.name = outcome) := by
    cases passed : picked client.id with
    | true => rfl
    | false =>
      rw [Client.reach_of_not_registered _ _ (skipped client member passed)]
      exact (decide_eq_false counts.symm).symm
  have clients : (registry.clients.map fun client =>
      if picked client.id then client.take registry.capacity event else client) =
      registry.clients.map fun client => client.take registry.capacity event := by
    refine List.map_congr_left fun client member => ?_
    cases passed : picked client.id with
    | true => rfl
    | false => exact (Client.take_of_not_registered _ _ (skipped client member passed)).symm
  rw [scanOnly, scan, clients,
    List.countP_congr fun client member => by rw [sameReach .reached (by decide) client member],
    List.filter_congr (sameReach .slow (by decide))]

/-- Removals that follow each other remove together what they remove at once. -/
theorem evict_evict (registry : Registry) (first second : List Nat) :
    ((registry.evict first).1.evict second).1 = (registry.evict (first ++ second)).1 ∧
      (registry.evict first).2 + ((registry.evict first).1.evict second).2 =
        (registry.evict (first ++ second)).2 := by
  have gone (client : Client) : Client.isRegistered { client with standing := .evicted } = false :=
    rfl
  constructor
  · simp only [evict, List.map_map]
    refine congrArg (fun clients => ({ registry with clients } : Registry)) ?_
    refine List.map_congr_left fun client _ => ?_
    by_cases registered : client.isRegistered = true <;> by_cases early : client.id ∈ first <;>
      simp [registered, early, gone]
  · simp only [evict, List.countP_map]
    induction registry.clients with
    | nil => rfl
    | cons client rest inductionHypothesis =>
      simp only [List.countP_cons, ← inductionHypothesis, Function.comp_apply]
      by_cases registered : client.isRegistered = true <;> by_cases early : client.id ∈ first <;>
        simp [registered, early, gone] <;> omega

theorem evictInOrder_eq (registry : Registry) (slow : List Nat) :
    registry.evictInOrder slow = registry.evict slow := by
  induction slow using List.reverseRecOn with
  | nil => simp [evictInOrder, evict]
  | append_singleton earlier id inductionHypothesis =>
    obtain ⟨twice, together⟩ := registry.evict_evict earlier [id]
    rw [evictInOrder, List.foldl_concat, ← evictInOrder, inductionHypothesis]
    exact Prod.ext twice together

/-- In which order a fan-out passes the registered clients, and removes those without room, makes
no difference. -/
theorem fanOutInOrder_eq (registry : Registry) (event : Event) {order : List Nat}
    (distinct : (registry.members.map (·.id)).Nodup)
    (every : order.Perm (registry.members.map (·.id))) :
    registry.fanOutInOrder event order = registry.fanOut event := by
  obtain ⟨scanned, similar⟩ := registry.scanInOrder_eq event (every.nodup_iff.mpr distinct)
  have whole : registry.scanOnly event order.contains = registry.scan event :=
    registry.scanOnly_of_members event fun client member =>
      List.contains_iff_mem.mpr (every.mem_iff.mpr (List.mem_map_of_mem member))
  rw [whole] at scanned similar
  rw [fanOutInOrder, fanOut]
  dsimp only
  rw [scanned, evictInOrder_eq, evict_eq_of_perm _ similar.slow, similar.reached]

/-! ### What a fan-out makes of the clients -/

/-- Only registered clients are counted, by whatever is true of registered ones only. -/
theorem countP_members (registry : Registry) {test : Client → Bool}
    (only : ∀ client, test client = true → client.isRegistered = true) :
    registry.members.countP test = registry.clients.countP test := by
  rw [members, List.countP_filter]
  refine List.countP_congr fun client _ => ?_
  rw [Bool.and_eq_true]
  exact and_iff_left_of_imp (only client)

/-- A fan-out removes as many clients as its scan found slow. -/
theorem evict_scan_snd (registry : Registry) (event : Event)
    (distinct : (registry.members.map (·.id)).Nodup) :
    ((registry.scan event).1.evict (registry.scan event).2.slow).2 =
      registry.clients.countP fun client =>
        client.reach registry.capacity event.name = .slow := by
  show (registry.clients.map _).countP _ = _
  rw [List.countP_map]
  refine List.countP_congr fun client member => ?_
  rw [Function.comp_apply, Bool.and_eq_true, Client.isRegistered, Client.take_standing,
    ← Client.isRegistered, Client.take_id, List.contains_iff_mem, decide_eq_true_eq]
  constructor
  · rintro ⟨registered, found⟩
    exact (registry.mem_slow_iff event distinct member registered).mp found
  · intro slow
    have registered := Client.isRegistered_of_reach_eq_slow slow
    exact ⟨registered, (registry.mem_slow_iff event distinct member registered).mpr slow⟩

/-- After a fan-out the clients are registered that were not addressed or had room. -/
theorem members_fanOut (registry : Registry) (event : Event)
    (distinct : (registry.members.map (·.id)).Nodup) :
    (registry.fanOut event).1.members =
      (registry.members.filter fun client =>
          !client.isAddressed event.name || client.hasRoom registry.capacity).map fun client =>
        if client.isAddressed event.name then { client with outbox := client.outbox ++ [event] }
        else client := by
  rw [members, registry.clients_fanOut_of_distinct event distinct, members, List.filter_map,
    List.filter_filter]
  refine (congrArg (List.map _) (List.filter_congr fun client _ =>
    client.isRegistered_offered registry.capacity event)).trans ?_
  refine List.map_congr_left fun client member => ?_
  have stays := (Bool.and_eq_true_iff.mp (List.mem_filter.mp member).2).1
  rw [client.offered_eq]
  cases addressed : client.isAddressed event.name with
  | false => rfl
  | true =>
    rw [addressed, Bool.not_true, Bool.false_or] at stays
    rw [stays]
    rfl

/-- A fan-out splits the registered clients: those that are addressed and have room get the event,
those that are addressed and have none are removed and get nothing, all others stay as they are.
The first are counted by the result, the second by the counter of evictions. In which order the
clients are kept makes no difference. -/
theorem fanOut_splits_clients (registry : Registry) (event : Event)
    (distinct : (registry.members.map (·.id)).Nodup) :
    let served := registry.members.countP fun client =>
      client.isAddressed event.name && client.hasRoom registry.capacity
    let expelled := registry.members.countP fun client =>
      client.isAddressed event.name && !client.hasRoom registry.capacity
    registry.fanOut event =
      ({ registry with
          clients := registry.clients.map fun client =>
            if !client.isAddressed event.name then client
            else if client.hasRoom registry.capacity then
              { client with outbox := client.outbox ++ [event] }
            else { client with standing := .evicted }
          delivered := registry.delivered + UInt64.ofNat served
          evicted := registry.evicted + UInt64.ofNat expelled },
        served) ∧
    (registry.fanOut event).1.members =
      (registry.members.filter fun client =>
          !client.isAddressed event.name || client.hasRoom registry.capacity).map (fun client =>
        if client.isAddressed event.name then { client with outbox := client.outbox ++ [event] }
        else client) ∧
    ∀ order : List Nat, order.Perm (registry.members.map (·.id)) →
      registry.fanOutInOrder event order = registry.fanOut event := by
  intro served expelled
  refine ⟨?_, registry.members_fanOut event distinct,
    fun order every => registry.fanOutInOrder_eq event distinct every⟩
  have reached : registry.clients.countP (fun client =>
      client.reach registry.capacity event.name = .reached) = served := by
    refine Eq.trans (List.countP_congr fun client _ => ?_) (registry.countP_members ?_).symm
    · rw [decide_eq_true_eq, Client.reach_eq_reached_iff]
    · exact fun client chosen => (Bool.and_eq_true_iff.mp (Bool.and_eq_true_iff.mp chosen).1).1
  have slow : registry.clients.countP (fun client =>
      client.reach registry.capacity event.name = .slow) = expelled := by
    refine Eq.trans (List.countP_congr fun client _ => ?_) (registry.countP_members ?_).symm
    · rw [decide_eq_true_eq, Client.reach_eq_slow_iff]
    · exact fun client chosen => (Bool.and_eq_true_iff.mp (Bool.and_eq_true_iff.mp chosen).1).1
  have parts : registry.fanOut event =
      ({ registry with
          clients := (registry.fanOut event).1.clients
          delivered := registry.delivered + UInt64.ofNat (registry.clients.countP fun client =>
            client.reach registry.capacity event.name = .reached)
          evicted := registry.evicted + UInt64.ofNat
            ((registry.scan event).1.evict (registry.scan event).2.slow).2 },
        registry.clients.countP fun client =>
          client.reach registry.capacity event.name = .reached) := rfl
  rw [parts, registry.clients_fanOut_of_distinct event distinct,
    registry.evict_scan_snd event distinct, reached, slow,
    List.map_congr_left fun client _ => client.offered_eq registry.capacity event]

/-- Five clients with room for one event: one has room, one is full, one is gone, and of two that
want other events one is full and one is gone. -/
theorem fanOut_splits_five_clients :
    let event : Event := ⟨⟨.disks, []⟩, .epoch⟩
    let others : Filter := ⟨some [Kind.shares.topic]⟩
    let registry : Registry := ⟨1, [⟨1, .everything, [], true, .registered⟩,
      ⟨2, .everything, [event], true, .registered⟩, ⟨3, .everything, [], false, .registered⟩,
      ⟨4, others, [event], true, .registered⟩, ⟨5, others, [], false, .registered⟩], 6, false, 7, 8⟩
    (registry.members.map (·.id)).Nodup ∧ [5, 3, 1, 4, 2].Perm (registry.members.map (·.id)) ∧
      (registry.fanOut event).2 = 1 ∧ (registry.fanOut event).1.evicted = 10 ∧
      (registry.fanOut event).1.members = [⟨1, .everything, [event], true, .registered⟩,
        ⟨4, others, [event], true, .registered⟩, ⟨5, others, [], false, .registered⟩] ∧
      registry.fanOutInOrder event [5, 3, 1, 4, 2] = registry.fanOut event := by
  intro event others registry
  have distinct : (registry.members.map (·.id)).Nodup := by decide +kernel
  have every : [5, 3, 1, 4, 2].Perm (registry.members.map (·.id)) := by decide +kernel
  obtain ⟨split, members, order⟩ := fanOut_splits_clients registry event distinct
  refine ⟨distinct, every, ?_, ?_, ?_, order _ every⟩
  · rw [split]
    decide +kernel
  · rw [split]
    decide +kernel
  · rw [members]
    rfl

end Registry

end ServerMonitor
