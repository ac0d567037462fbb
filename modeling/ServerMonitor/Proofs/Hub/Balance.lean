/-
This file balances the books of a registry on which fan-outs overlap. Every
identity granted belongs to a client that is registered or was removed once, by
an unregistration, an eviction or a shutdown; what the fan-outs yield adds up to
the events that were put into outboxes. The counters lag behind while fan-outs
are in progress and are exact, modulo `2 ^ 64`, when none is.
-/

import ServerMonitor.Proofs.Hub.Overlap

namespace ServerMonitor

open Registry (Request Reply)

/-! ### Answers -/

namespace Registry.Reply

/-- The identity that an answer grants. -/
def identity? : Reply → Option Nat
  | granted id => id
  | _ => none

/-- Whether an answer says that a client was removed. -/
def removal? : Reply → Option Unit
  | removed true => some ()
  | _ => none

/-- The number that a fan-out yields. -/
def reach? : Reply → Option Nat
  | reached count => some count
  | _ => none

end Registry.Reply

namespace SharedRegistry

/-- What is read off the answer to a turn. -/
def answered {Entry : Type} (pick : Reply → Option Entry) (shared : SharedRegistry) (turn : Turn) :
    List Entry :=
  ((shared.perform turn).2.bind pick).toList

/-- A turn answers with the identity of the client that it adds. -/
theorem answered_identity? (shared : SharedRegistry) (turn : Turn) :
    answered Reply.identity? shared turn = (shared.joining turn).map (·.id) := by
  cases turn with
  | request request =>
    rcases eq_fanOut_or request with ⟨event, rfl⟩ | other
    · rfl
    · rw [answered, shared.perform_request other]
      cases request with
      | register =>
        show (shared.registry.register.2).toList = _
        unfold Registry.register joining Registry.joining
        cases shared.registry.closed <;> rfl
      | _ => rfl
  | proceed index =>
    rw [answered, perform]
    split <;> rfl

/-- An unregistration says so if it removes a client, and no other turn does. -/
theorem length_answered_removal? {shared : SharedRegistry} (sound : shared.registry.Sound)
    (turn : Turn) :
    (answered Reply.removal? shared turn).length = (shared.removed .left turn).length := by
  cases turn with
  | request request =>
    cases request with
    | unregister id =>
      have mem_removed_iff (other : Nat) :
          other ∈ shared.removed .left (.request (.unregister id)) ↔
            other = id ∧ shared.registry.contains id = true := by
        rw [removed, List.mem_map, Registry.contains, List.any_eq_true]
        simp only [List.mem_filter, expels, decide_true, Bool.true_and, decide_eq_true_eq]
        constructor
        · rintro ⟨client, ⟨member, same⟩, rfl⟩
          exact ⟨same, client, member, same⟩
        · rintro ⟨rfl, client, member, same⟩
          exact ⟨client, ⟨member, same⟩, same⟩
      show (Option.toList (Reply.removal? (.removed (shared.registry.contains id)))).length = _
      cases contained : shared.registry.contains id with
      | true =>
        refine (List.Perm.length_eq ((List.perm_ext_iff_of_nodup
          (nodup_removed sound .left _) (List.nodup_singleton id)).mpr fun other => ?_)).symm
        rw [mem_removed_iff, contained, List.mem_singleton]
        exact and_iff_left rfl
      | false =>
        have nobody : shared.removed .left (.request (.unregister id)) = [] := by
          refine List.eq_nil_iff_forall_not_mem.mpr fun other found => ?_
          rw [mem_removed_iff, contained] at found
          cases found.2
        rw [nobody]
        rfl
    | _ =>
      rw [removed_eq_nil fun client => rfl]
      rfl
  | proceed index =>
    have nobody : shared.removed .left (.proceed index) = [] := by
      refine removed_eq_nil fun client => ?_
      rw [expels]
      cases shared.fanOuts[index]? with
      | none => rfl
      | some fanOut => cases fanOut <;> rfl
    rw [nobody, answered, perform]
    cases shared.fanOuts[index]? with
    | none => rfl
    | some fanOut => cases fanOut <;> rfl

/-! ### Events put into outboxes -/

/-- The events that stand in the outboxes after a turn and did not before. -/
def put (shared : SharedRegistry) (turn : Turn) : List Event :=
  (shared.registry.clients.zip (shared.perform turn).1.registry.clients).flatMap
    fun (before, after) => after.outbox.drop before.outbox.length

theorem zip_map_append {First Second : Type} (list : List First) (image : First → Second)
    (more : List Second) :
    list.zip (list.map image ++ more) = list.map fun entry => (entry, image entry) := by
  induction list with
  | nil => rfl
  | cons entry rest inductionHypothesis =>
    rw [List.map_cons, List.cons_append, List.zip_cons_cons, inductionHypothesis, List.map_cons]

theorem put_eq {shared : SharedRegistry} (sound : shared.registry.Sound) (turn : Turn) :
    shared.put turn = shared.registry.clients.flatMap fun client =>
      (shared.change turn client).outbox.drop client.outbox.length := by
  rw [put, clients_perform sound, zip_map_append, List.flatMap_map]

theorem put_eq_nil {shared : SharedRegistry} (sound : shared.registry.Sound) {turn : Turn}
    (shrinks : ∀ client, (shared.change turn client).outbox.length ≤ client.outbox.length) :
    shared.put turn = [] := by
  rw [put_eq sound, List.flatMap_eq_nil_iff]
  exact fun client _ => List.drop_eq_nil_of_le (shrinks client)

/-- A scan puts its event into the outbox of each client that it reaches. -/
theorem length_put_fanOut {shared : SharedRegistry} (sound : shared.registry.Sound)
    (event : Event) :
    (shared.put (.request (.fanOut event))).length = (shared.registry.scan event).2.reached := by
  rw [put_eq sound]
  show _ = shared.registry.clients.countP _
  induction shared.registry.clients with
  | nil => rfl
  | cons client rest inductionHypothesis =>
    rw [List.flatMap_cons, List.length_append, inductionHypothesis, List.countP_cons, Nat.add_comm]
    congr 1
    show ((client.take _ event).outbox.drop _).length = _
    unfold Client.take
    by_cases reached : client.reach shared.registry.capacity event.name = .reached <;>
      simp [reached]

/-- Only fan-outs put events into outboxes. -/
theorem length_outbox_after_le (client : Client) (capacity : Nat) {request : Request}
    (other : ∀ event, request ≠ .fanOut event) :
    (client.after capacity request).outbox.length ≤ client.outbox.length := by
  cases request with
  | fanOut event => exact absurd rfl (other event)
  | register => exact le_rfl
  | shutdown => exact (congrArg List.length (client.removed_outbox .cleared)).le
  | unregister id => rw [Client.after]; split <;> simp
  | setFilter id filter => rw [Client.after]; split <;> exact le_rfl
  | control id text => rw [Client.after]; split <;> exact le_rfl
  | receive id => rw [Client.after]; split <;> simp
  | dropReceiver id => rw [Client.after]; split <;> simp

/-! ### Counters -/

/-- How many clients were reached by the fan-outs in progress. -/
def underWay (shared : SharedRegistry) : Nat := (shared.fanOuts.map FanOut.reached).sum

/-- How many clients were removed by the fan-outs in progress and not counted yet. -/
def uncounted (shared : SharedRegistry) : Nat := (shared.fanOuts.map FanOut.uncounted).sum

section Progress

variable {fanOuts : List FanOut} {index : Nat} {fanOut : FanOut}
  (held : fanOuts[index]? = some fanOut) (measure : FanOut → Nat)

include held

theorem sum_eraseIdx :
    measure fanOut + ((fanOuts.eraseIdx index).map measure).sum = (fanOuts.map measure).sum := by
  obtain ⟨within, rfl⟩ := List.getElem?_eq_some_iff.mp held
  rw [← List.sum_cons, ← List.map_cons]
  exact ((List.getElem_cons_eraseIdx_perm within).map measure).sum_eq

theorem sum_set (next : FanOut) :
    measure fanOut + ((fanOuts.set index next).map measure).sum =
      measure next + (fanOuts.map measure).sum := by
  obtain ⟨within, -⟩ := List.getElem?_eq_some_iff.mp held
  rw [((List.set_perm_cons_eraseIdx within next).map measure).sum_eq, List.map_cons,
    List.sum_cons, ← sum_eraseIdx held measure]
  omega

end Progress

/-- A request that is no fan-out leaves the counters alone. -/
theorem counters_perform (registry : Registry) {request : Request}
    (other : ∀ event, request ≠ .fanOut event) :
    (registry.perform request).1.delivered = registry.delivered ∧
      (registry.perform request).1.evicted = registry.evicted ∧
      (registry.perform request).2.reach? = none := by
  cases request with
  | fanOut event => exact absurd rfl (other event)
  | register =>
    show registry.register.1.delivered = _ ∧ registry.register.1.evicted = _ ∧ _
    unfold Registry.register
    split <;> exact ⟨rfl, rfl, rfl⟩
  | receive id =>
    show (registry.receive id).1.delivered = _ ∧ (registry.receive id).1.evicted = _ ∧ _
    unfold Registry.receive
    split
    · exact ⟨rfl, rfl, rfl⟩
    · split <;> exact ⟨rfl, rfl, rfl⟩
  | _ => exact ⟨rfl, rfl, rfl⟩

/-- A fan-out counts the clients that it reached when it yields their number. -/
theorem delivered_perform (shared : SharedRegistry) (turn : Turn) :
    (shared.perform turn).1.registry.delivered =
      shared.registry.delivered + UInt64.ofNat (answered Reply.reach? shared turn).sum := by
  cases turn with
  | request request =>
    rcases eq_fanOut_or request with ⟨event, rfl⟩ | other
    · exact (UInt64.add_zero _).symm
    · obtain ⟨delivered, -, unreached⟩ := counters_perform shared.registry other
      rw [answered, shared.perform_request other, Option.bind_some, unreached, delivered]
      exact (UInt64.add_zero _).symm
  | proceed index =>
    rw [answered, perform]
    cases shared.fanOuts[index]? with
    | none => exact (UInt64.add_zero _).symm
    | some fanOut =>
      cases fanOut with
      | scanned found => exact (UInt64.add_zero _).symm
      | removed reached evicted => rfl
      | recorded reached => rfl

/-- What fan-outs yield, with what those in progress will yield, are the events put into
outboxes. -/
theorem underWay_perform {shared : SharedRegistry} (sound : shared.registry.Sound) (turn : Turn) :
    (answered Reply.reach? shared turn).sum + (shared.perform turn).1.underWay =
      shared.underWay + (shared.put turn).length := by
  cases turn with
  | request request =>
    rcases eq_fanOut_or request with ⟨event, rfl⟩ | other
    · rw [length_put_fanOut sound]
      show 0 + ((shared.fanOuts ++ [_]).map FanOut.reached).sum = _
      rw [List.map_append, List.sum_append, Nat.zero_add]
      rfl
    · obtain ⟨-, -, unreached⟩ := counters_perform shared.registry other
      rw [put_eq_nil sound fun client => by
          rw [shared.change_request other]
          exact length_outbox_after_le client _ other,
        answered, shared.perform_request other, Option.bind_some, unreached]
      exact Nat.zero_add _
  | proceed index =>
    have nothing : shared.put (.proceed index) = [] := by
      refine put_eq_nil sound fun client => ?_
      rw [change]
      cases shared.fanOuts[index]? with
      | none => exact le_rfl
      | some fanOut =>
        cases fanOut with
        | scanned found => dsimp only; split <;> exact le_rfl
        | removed _ _ | recorded _ => exact le_rfl
    rw [nothing, answered, perform, underWay, underWay]
    cases held : shared.fanOuts[index]? with
    | none => exact Nat.zero_add _
    | some fanOut =>
      cases fanOut with
      | scanned found =>
        have same := sum_set held FanOut.reached
          (.removed found.reached (shared.registry.evict found.slow).2)
        exact (Nat.zero_add _).trans (Nat.add_left_cancel same)
      | removed reached evicted =>
        have same := sum_set held FanOut.reached (.recorded reached)
        exact (Nat.zero_add _).trans (Nat.add_left_cancel same)
      | recorded reached => exact sum_eraseIdx held FanOut.reached

/-- Evictions are counted by the fan-out that made them, after it made them. -/
theorem evicted_perform (shared : SharedRegistry) (turn : Turn) :
    (shared.perform turn).1.registry.evicted +
        UInt64.ofNat (shared.perform turn).1.uncounted =
      shared.registry.evicted + UInt64.ofNat shared.uncounted +
        UInt64.ofNat (shared.removed .evicted turn).length := by
  cases turn with
  | request request =>
    have nobody : shared.removed .evicted (.request request) = [] := by
      refine removed_eq_nil fun client => ?_
      cases request <;> rfl
    rw [nobody]
    rcases eq_fanOut_or request with ⟨event, rfl⟩ | other
    · show _ + UInt64.ofNat ((shared.fanOuts ++ [_]).map FanOut.uncounted).sum = _
      rw [List.map_append, List.sum_append]
      exact (UInt64.add_zero _).symm
    · rw [shared.perform_request other, (counters_perform shared.registry other).2.1]
      exact (UInt64.add_zero _).symm
  | proceed index =>
    rw [perform, uncounted, uncounted]
    cases held : shared.fanOuts[index]? with
    | none =>
      rw [removed_eq_nil fun client => by rw [expels, held]]
      exact (UInt64.add_zero _).symm
    | some fanOut =>
      cases fanOut with
      | scanned found =>
        have counted : (shared.registry.evict found.slow).2 =
            (shared.removed .evicted (.proceed index)).length := by
          rw [removed, List.length_map, expels, held, Registry.members, List.filter_filter,
            ← List.countP_eq_length_filter]
          exact List.countP_congr fun client _ => by simp [and_comm]
        have grown := sum_set held FanOut.uncounted
          (.removed found.reached (shared.registry.evict found.slow).2)
        rw [← counted, UInt64.add_assoc, ← UInt64.ofNat_add]
        exact congrArg (shared.registry.evicted + UInt64.ofNat ·)
          ((Nat.zero_add _).symm.trans (grown.trans (Nat.add_comm _ _)))
      | removed reached evicted =>
        have settled := sum_set held FanOut.uncounted (.recorded reached)
        have settled : evicted + ((shared.fanOuts.set index (.recorded reached)).map
            FanOut.uncounted).sum = (shared.fanOuts.map FanOut.uncounted).sum :=
          settled.trans (Nat.zero_add _)
        rw [removed_eq_nil fun client => by rw [expels, held], ← settled, UInt64.ofNat_add,
          ← UInt64.add_assoc]
        exact (UInt64.add_zero _).symm
      | recorded reached =>
        have settled : 0 + ((shared.fanOuts.eraseIdx index).map FanOut.uncounted).sum =
            (shared.fanOuts.map FanOut.uncounted).sum := sum_eraseIdx held FanOut.uncounted
        rw [removed_eq_nil fun client => by rw [expels, held], ← settled, Nat.zero_add]
        show shared.registry.evicted + 0 + _ = _ + 0
        rw [UInt64.add_zero, UInt64.add_zero]

/-! ### Closing -/

/-- The registry has no clients left and takes no more. -/
structure Shut (shared : SharedRegistry) : Prop where
  closed : shared.registry.closed = true
  gone : ∀ client ∈ shared.registry.clients, client.isRegistered = false

theorem isRegistered_change {shared : SharedRegistry} {client : Client}
    (gone : client.isRegistered = false) (turn : Turn) :
    (shared.change turn client).isRegistered = false := by
  have other : client.standing ≠ .registered := of_decide_eq_false gone
  have stays := (shared.standing_change turn client other).mpr (.inl rfl)
  rw [Client.isRegistered, stays]
  exact gone

theorem closed_perform {shared : SharedRegistry} (closed : shared.registry.closed = true)
    (turn : Turn) : (shared.perform turn).1.registry.closed = true := by
  cases turn with
  | request request =>
    cases request with
    | register =>
      show shared.registry.register.1.closed = true
      unfold Registry.register
      rw [if_pos closed]
      exact closed
    | receive id =>
      show (shared.registry.receive id).1.closed = true
      unfold Registry.receive
      split
      · exact closed
      · split <;> exact closed
    | shutdown => rfl
    | _ => exact closed
  | proceed index =>
    rw [perform]
    cases shared.fanOuts[index]? with
    | none => exact closed
    | some fanOut => cases fanOut <;> exact closed

/-- After a shutdown the registry stays shut. -/
theorem Shut.perform {shared : SharedRegistry} (sound : shared.registry.Sound) (shut : shared.Shut)
    (turn : Turn) : (shared.perform turn).1.Shut := by
  have nobody : shared.joining turn = [] := by
    cases turn with
    | request request =>
      cases request with
      | register => rw [joining, Registry.joining, if_pos shut.closed]
      | _ => rfl
    | proceed index => rfl
  refine ⟨closed_perform shut.closed turn, fun client member => ?_⟩
  rw [clients_perform sound, nobody, List.append_nil] at member
  obtain ⟨before, present, rfl⟩ := List.mem_map.mp member
  exact isRegistered_change (shut.gone before present) turn

/-- Nothing but a fan-out takes more than one turn. -/
theorem Shut.ask {registry : Registry} (sound : registry.Sound) (shut : Shut ⟨registry, []⟩)
    {request : Request} (other : ∀ event, request ≠ .fanOut event) :
    Shut ⟨(registry.perform request).1, []⟩ := by
  have kept := shut.perform sound (.request request)
  rwa [perform_request _ other] at kept

theorem shut_shutdown (shared : SharedRegistry) :
    (shared.perform (.request .shutdown)).1.Shut := by
  refine ⟨rfl, fun client member => ?_⟩
  obtain ⟨before, -, rfl⟩ := List.mem_map.mp member
  cases registered : before.isRegistered with
  | true => rfl
  | false => exact registered

theorem Shut.clientCount_eq_zero {shared : SharedRegistry} (shut : shared.Shut) :
    shared.registry.clientCount = 0 := by
  rw [Registry.clientCount, Registry.members, List.length_eq_zero_iff, List.filter_eq_nil_iff]
  exact fun client member => Bool.eq_false_iff.mp (shut.gone client member)

theorem Shut.refuses {shared : SharedRegistry} (shut : shared.Shut) :
    (shared.perform (.request .register)).2 = some (.granted none) := by
  show some (Reply.granted shared.registry.register.2) = _
  rw [Registry.register, if_pos shut.closed]

/-! ### Runs -/

/-- A new registry, on which no fan-out is in progress. -/
def withCapacity (capacity : Nat) : SharedRegistry := ⟨Registry.withCapacity capacity, []⟩

section Runs

variable (capacity : Nat)

def after (turns : List Turn) : SharedRegistry := Machine.run perform (withCapacity capacity) turns

/-- What is read off the answers of a run. -/
def answers {Entry : Type} (pick : Reply → Option Entry) (turns : List Turn) : List Entry :=
  Machine.log perform (answered pick) (withCapacity capacity) turns

/-- The clients that were removed in a run, by the standing that they have from then on. -/
def removals (standing : Standing) (turns : List Turn) : List Nat :=
  Machine.log perform (fun shared => shared.removed standing) (withCapacity capacity) turns

/-- The events that were put into outboxes. -/
def eventsPut (turns : List Turn) : List Event :=
  Machine.log perform put (withCapacity capacity) turns

theorem after_concat (past : List Turn) (turn : Turn) :
    after capacity (past ++ [turn]) = ((after capacity past).perform turn).1 :=
  Machine.run_concat perform _ past turn

theorem answers_concat {Entry : Type} (pick : Reply → Option Entry) (past : List Turn)
    (turn : Turn) :
    answers capacity pick (past ++ [turn]) =
      answers capacity pick past ++ answered pick (after capacity past) turn :=
  Machine.log_concat perform (answered pick) _ past turn

theorem removals_concat (standing : Standing) (past : List Turn) (turn : Turn) :
    removals capacity standing (past ++ [turn]) =
      removals capacity standing past ++ (after capacity past).removed standing turn :=
  Machine.log_concat perform _ _ past turn

variable (turns : List Turn)

theorem sound_after : (after capacity turns).registry.Sound :=
  Machine.run_invariant perform (fun shared => shared.registry.Sound)
    (fun _ turn sound => sound_perform sound turn) (.withCapacity capacity) turns

/-- The identities that were granted are those of the clients. -/
theorem answers_identity? :
    answers capacity Reply.identity? turns =
      (after capacity turns).registry.clients.map (·.id) := by
  induction turns using List.reverseRecOn with
  | nil => rfl
  | append_singleton past turn inductionHypothesis =>
    have sameIds : (after capacity past).registry.clients.map
        ((·.id) ∘ (after capacity past).change turn) =
        (after capacity past).registry.clients.map (·.id) :=
      List.map_congr_left fun client _ => change_id _ turn client
    rw [answers_concat, after_concat, clients_perform (sound_after capacity past),
      List.map_append, List.map_map, sameIds, inductionHypothesis, answered_identity?]

theorem length_answers_removal? :
    (answers capacity Reply.removal? turns).length = (removals capacity .left turns).length := by
  induction turns using List.reverseRecOn with
  | nil => rfl
  | append_singleton past turn inductionHypothesis =>
    rw [answers_concat, removals_concat, List.length_append, List.length_append,
      inductionHypothesis, length_answered_removal? (sound_after capacity past)]

/-- Whoever was removed stands so. -/
theorem removals_perm {standing : Standing} (gone : standing ≠ .registered) :
    (removals capacity standing turns).Perm
      (withStanding (after capacity turns).registry standing) := by
  induction turns using List.reverseRecOn with
  | nil => exact List.Perm.nil
  | append_singleton past turn inductionHypothesis =>
    rw [removals_concat, after_concat]
    exact (inductionHypothesis.append_right _).trans
      (withStanding_perform (sound_after capacity past) turn gone).symm

/-- What fan-outs yielded or are to yield are the events that were put into outboxes. -/
theorem sum_answers_reach? :
    (answers capacity Reply.reach? turns).sum + (after capacity turns).underWay =
      (eventsPut capacity turns).length := by
  induction turns using List.reverseRecOn with
  | nil => rfl
  | append_singleton past turn inductionHypothesis =>
    rw [answers_concat, eventsPut, Machine.log_concat, List.sum_append, List.length_append,
      after_concat, Nat.add_assoc, underWay_perform (sound_after capacity past), ← Nat.add_assoc,
      inductionHypothesis]
    rfl

theorem delivered_after : (after capacity turns).registry.delivered =
    UInt64.ofNat (answers capacity Reply.reach? turns).sum := by
  induction turns using List.reverseRecOn with
  | nil => rfl
  | append_singleton past turn inductionHypothesis =>
    rw [answers_concat, List.sum_append, UInt64.ofNat_add, after_concat, delivered_perform,
      inductionHypothesis]

theorem evicted_after :
    (after capacity turns).registry.evicted + UInt64.ofNat (after capacity turns).uncounted =
      UInt64.ofNat (removals capacity .evicted turns).length := by
  induction turns using List.reverseRecOn with
  | nil => rfl
  | append_singleton past turn inductionHypothesis =>
    rw [removals_concat, List.length_append, UInt64.ofNat_add, after_concat, evicted_perform,
      inductionHypothesis]

theorem shut_after_shutdown (past future : List Turn) :
    (after capacity (past ++ .request .shutdown :: future)).Shut := by
  have start : (after capacity (past ++ [.request .shutdown])).registry.Sound ∧
      (after capacity (past ++ [.request .shutdown])).Shut := by
    rw [after_concat]
    exact ⟨sound_perform (sound_after capacity past) _, shut_shutdown _⟩
  rw [List.append_cons, after, Machine.run_append]
  exact (Machine.run_invariant perform (fun shared => shared.registry.Sound ∧ shared.Shut)
    (fun _ turn holds => ⟨sound_perform holds.1 turn, holds.2.perform holds.1 turn⟩)
    start future).2

end Runs

/-- Every client is registered or was removed in one of three ways. -/
theorem withStanding_perm (registry : Registry) :
    (withStanding registry .registered ++ (withStanding registry .left ++
      withStanding registry .evicted ++ withStanding registry .cleared)).Perm
      (registry.clients.map (·.id)) := by
  unfold withStanding
  induction registry.clients with
  | nil => exact List.Perm.nil
  | cons client rest inductionHypothesis =>
    have grown := inductionHypothesis.cons client.id
    rw [List.map_cons]
    refine List.Perm.trans ?_ grown
    cases standing : client.standing <;>
      simp only [List.filter_cons, standing, decide_true, reduceCtorEq, decide_false, if_true,
        Bool.false_eq_true, if_false, List.map_cons, List.cons_append]
    · exact List.Perm.refl _
    · exact List.perm_middle
    · refine List.Perm.trans ?_ List.perm_middle
      exact (List.perm_middle.append_right _).append_left _
    · refine List.Perm.trans ?_ List.perm_middle
      exact List.perm_middle.append_left _

theorem length_withStanding_registered (registry : Registry) :
    (withStanding registry .registered).length = registry.clientCount :=
  List.length_map _

/-- Whatever turns fan-outs and other requests take, identities are granted in increasing order, and
each client that was granted one is registered or was removed once, by an unregistration that said
so, by a fan-out or by a shutdown. Events are put into outboxes as often as fan-outs yield or are to
yield. When no fan-out is in progress the counters are those numbers, modulo `2 ^ 64`. After a
shutdown nobody is registered and nobody will be. -/
theorem registrations_balance (capacity : Nat) (turns : List Turn) :
    let now := after capacity turns
    let granted := answers capacity Reply.identity? turns
    let unregistrations := answers capacity Reply.removal? turns
    let results := answers capacity Reply.reach? turns
    let removed := fun standing => removals capacity standing turns
    granted.Pairwise (· < ·) ∧
    (∀ standing, standing ≠ .registered →
      (removed standing).Perm (withStanding now.registry standing)) ∧
    (removed .left ++ removed .evicted ++ removed .cleared).Nodup ∧
    (∀ id ∈ removed .left ++ removed .evicted ++ removed .cleared, id ∈ granted) ∧
    unregistrations.length = (removed .left).length ∧
    granted.length = now.registry.clientCount + unregistrations.length +
      (removed .evicted).length + (removed .cleared).length ∧
    (now.fanOuts = [] →
      now.registry.evicted = UInt64.ofNat (removed .evicted).length ∧
      UInt64.ofNat granted.length = UInt64.ofNat (now.registry.clientCount +
        unregistrations.length) + now.registry.evicted + UInt64.ofNat (removed .cleared).length ∧
      now.registry.delivered = UInt64.ofNat results.sum ∧
      results.sum = (eventsPut capacity turns).length) ∧
    ∀ past future, turns = past ++ .request .shutdown :: future →
      now.registry.clientCount = 0 ∧ now.registry.closed = true ∧
        (now.perform (.request .register)).2 = some (.granted none) := by
  intro now granted unregistrations results removed
  have sound : now.registry.Sound := sound_after capacity turns
  have identities : granted = now.registry.clients.map (·.id) := answers_identity? capacity turns
  have stands (standing : Standing) (gone : standing ≠ .registered) :
      (removed standing).Perm (withStanding now.registry standing) :=
    removals_perm capacity turns gone
  have everyone : (withStanding now.registry .registered ++
      (removed .left ++ removed .evicted ++ removed .cleared)).Perm granted := by
    rw [identities]
    refine List.Perm.trans (List.Perm.append_left _ ?_) (withStanding_perm now.registry)
    exact ((stands .left (by decide)).append (stands .evicted (by decide))).append
      (stands .cleared (by decide))
  have once : granted.Nodup := identities ▸ sound.ids ▸ List.nodup_range'
  have unregistered : unregistrations.length = (removed .left).length :=
    length_answers_removal? capacity turns
  have balance : granted.length = now.registry.clientCount + unregistrations.length +
      (removed .evicted).length + (removed .cleared).length := by
    rw [← everyone.length_eq, List.length_append, List.length_append, List.length_append,
      length_withStanding_registered, unregistered, Nat.add_assoc, Nat.add_assoc, Nat.add_assoc]
  refine ⟨?_, stands, (List.nodup_append.mp (everyone.nodup_iff.mpr once)).2.1,
    fun id member => everyone.subset (List.mem_append_right _ member), unregistered, balance,
    fun idle => ?_, ?_⟩
  · rw [identities, sound.ids]
    exact List.pairwise_lt_range'
  · have evicted : now.registry.evicted = UInt64.ofNat (removed .evicted).length := by
      rw [← evicted_after capacity turns, uncounted,
        show (after capacity turns).fanOuts = [] from idle]
      exact (UInt64.add_zero _).symm
    have put := sum_answers_reach? capacity turns
    rw [underWay, show (after capacity turns).fanOuts = [] from idle] at put
    refine ⟨evicted, ?_, delivered_after capacity turns, put⟩
    rw [balance, evicted, UInt64.ofNat_add, UInt64.ofNat_add]
  · rintro past future rfl
    have shut : now.Shut := shut_after_shutdown capacity past future
    exact ⟨shut.clientCount_eq_zero, shut.closed, shut.refuses⟩

/-- A client leaves between the scan that finds it slow and the removal: it is not counted as
evicted, and what it was sent before is counted. -/
theorem balance_of_client_leaving_in_between :
    let turns : List Turn := [.request .register, .request (.fanOut ⟨⟨.disks, []⟩, .epoch⟩),
      .proceed 0, .proceed 0, .request (.fanOut ⟨⟨.shares, []⟩, .epoch⟩),
      .request (.unregister 1), .proceed 1, .proceed 1, .proceed 1, .proceed 0]
    (after 1 turns).registry.evicted = 0 ∧ (after 1 turns).registry.delivered = 1 := by
  intro turns
  obtain ⟨-, -, -, -, -, -, counters, -⟩ := registrations_balance 1 turns
  have nobody : removals 1 .evicted turns = [] := by decide
  have results : answers 1 Reply.reach? turns = [0, 1] := by decide
  obtain ⟨evicted, -, delivered, -⟩ := counters (by rfl)
  exact ⟨evicted.trans (congrArg (UInt64.ofNat ·.length) nobody),
    delivered.trans (congrArg (UInt64.ofNat ·.sum) results)⟩

end SharedRegistry

end ServerMonitor
