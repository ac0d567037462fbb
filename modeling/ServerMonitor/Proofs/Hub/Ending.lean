/-
This file states what the queue of a hub does from its start to its end. While
the loop goes on, the events that it has offered to all clients, the one that it
has in hand and those that wait are, in this order, the events that were taken.
Once it is cancelled it takes no further one. It shuts the registry down before
it drops its queue, so whoever is told that the loop has ended finds nobody
registered.
-/

import ServerMonitor.Proofs.Hub.Balance
import ServerMonitor.Proofs.Hub.Loop

namespace ServerMonitor

open Registry (Request Reply)

/-- Whether the registry has been shut down. -/
def Stage.isShut : Stage → Bool
  | closing | ended => true
  | _ => false

theorem Stage.ne_ended_of_unshut {stage : Stage} (unshut : stage.isShut = false) :
    stage ≠ .ended := by
  rintro rfl
  cases unshut

/-- How many turns a loop that is cancelled takes until it has ended. -/
def Stage.remaining : Stage → Nat
  | holding _ => 8
  | scanning _ _ _ => 7
  | settling (.scanned _) => 6
  | settling (.removed _ _) => 5
  | settling (.recorded _) => 4
  | polling => 3
  | leaving => 2
  | closing => 1
  | ended => 0

theorem Stage.remaining_le (stage : Stage) : stage.remaining ≤ 8 := by
  unfold remaining
  split <;> omega

theorem Stage.eq_ended_of_remaining {stage : Stage} (none : stage.remaining = 0) :
    stage = .ended := by
  unfold remaining at none
  split at none <;> first | rfl | cases none

namespace HubLoop

/-- Whether the loop takes a turn. -/
def Turn.isAdvance : Turn → Bool
  | advance => true
  | _ => false

/-! ### What keeps the loop in order -/

/-- What a hub and its loop keep. -/
structure Sound (capacity : Nat) (loop : HubLoop) : Prop where
  registry : loop.hub.registry.Sound
  capacity : loop.hub.capacity = capacity
  running : loop.hub.running = true ↔ loop.stage ≠ .ended
  shut : loop.stage.isShut = true → SharedRegistry.Shut ⟨loop.hub.registry, []⟩

theorem Sound.start (clientCapacity broadcastCapacity : Nat) :
    (start clientCapacity broadcastCapacity).Sound (max broadcastCapacity 1) :=
  ⟨.withCapacity clientCapacity, rfl, ⟨nofun, fun _ => rfl⟩, nofun⟩

/-- What can be asked of the registry does not reopen it. -/
theorem shut_attend {registry : Registry} (sound : registry.Sound)
    (shut : SharedRegistry.Shut ⟨registry, []⟩) {stage : Stage} {request : Request}
    (admitted : stage.admits request = true) :
    SharedRegistry.Shut ⟨(registry.perform request).1, []⟩ := by
  refine shut.ask sound fun event same => ?_
  subst same
  cases stage <;> cases admitted

/-- Before the registry is shut down a loop has only to go on. -/
theorem Sound.of_unshut {capacity : Nat} {loop next : HubLoop} (sound : loop.Sound capacity)
    (registry : next.hub.registry.Sound) (sameCapacity : next.hub.capacity = loop.hub.capacity)
    (running : next.hub.running = loop.hub.running) (before : loop.stage.isShut = false)
    (now : next.stage.isShut = false) : next.Sound capacity where
  registry := registry
  capacity := sameCapacity.trans sound.capacity
  running := by
    rw [running, sound.running]
    exact iff_of_true (Stage.ne_ended_of_unshut before) (Stage.ne_ended_of_unshut now)
  shut shut := absurd (now.symm.trans shut) Bool.false_ne_true

theorem Sound.perform {capacity : Nat} {loop : HubLoop} (sound : loop.Sound capacity)
    (turn : Turn) : (loop.perform turn).1.Sound capacity := by
  have registry := sound_perform sound.registry turn
  cases turn with
  | broadcast event =>
    rcases loop.perform_broadcast_cases event with ⟨-, -, taken⟩ | ⟨-, -, refused⟩ | ⟨-, nobody⟩
    · rw [taken]
      exact ⟨sound.registry, sound.capacity, sound.running, sound.shut⟩
    · rw [refused]
      exact sound
    · rw [nobody]
      exact sound
  | attend request =>
    rw [HubLoop.perform] at registry ⊢
    cases admitted : loop.stage.admits request with
    | false => exact sound
    | true =>
      rw [admitted] at registry
      exact ⟨registry, sound.capacity, sound.running,
        fun late => shut_attend sound.registry (sound.shut late) admitted⟩
  | pass id =>
    rw [HubLoop.perform] at registry ⊢
    rcases loop.pass_cases id with same | ⟨event, _, _, scans, _, _, _, passes⟩
    · rw [same]
      exact sound
    · rw [passes] at registry ⊢
      exact sound.of_unshut registry rfl rfl (scans ▸ rfl) rfl
  | advance =>
    rw [HubLoop.perform] at registry ⊢
    cases stage : loop.stage with
    | polling =>
      rcases loop.poll_cases stage with leaves | ⟨-, event, rest, -, takes⟩ | ⟨-, stays⟩
      · rw [leaves]
        exact sound.of_unshut sound.registry rfl rfl (stage ▸ rfl) rfl
      · rw [takes]
        exact sound.of_unshut sound.registry rfl rfl (stage ▸ rfl) rfl
      · rw [stays]
        exact sound
    | holding _ | scanning _ _ _ =>
      rw [advance, stage] at registry ⊢
      exact sound.of_unshut registry rfl rfl (stage ▸ rfl) rfl
    | settling progress =>
      rw [advance, stage] at registry ⊢
      cases progress <;> exact sound.of_unshut registry rfl rfl (stage ▸ rfl) rfl
    | leaving =>
      rw [advance, stage] at registry ⊢
      exact ⟨registry, sound.capacity, by simpa [stage] using sound.running,
        fun _ => SharedRegistry.shut_shutdown ⟨loop.hub.registry, []⟩⟩
    | closing =>
      rw [advance, stage]
      exact ⟨sound.registry, sound.capacity,
        ⟨fun running => absurd running Bool.false_ne_true, fun other => absurd rfl other⟩,
        fun _ => sound.shut (stage ▸ rfl)⟩
    | ended =>
      rw [advance, stage]
      exact sound
  | cancel | abandon => exact ⟨sound.registry, sound.capacity, sound.running, sound.shut⟩

/-! ### The way of an event -/

/-- Whether an answer says that an event was taken. -/
def Answer.isTaken : Answer → Bool
  | handedOver taken => taken
  | _ => false

/-- The event that someone handed over and that was taken. -/
def taken (loop : HubLoop) : Turn → List Event
  | .broadcast event => if (loop.perform (.broadcast event)).2.isTaken then [event] else []
  | _ => []

/-- The event whose fan-out has then reached all clients. -/
def fanned (loop : HubLoop) : Turn → List Event
  | .advance =>
    match loop.stage with
    | .scanning event _ _ => [event]
    | _ => []
  | _ => []

/-- The events that are not yet fanned out. -/
def pending (loop : HubLoop) : List Event := loop.stage.inHand ++ loop.hub.queue

/-- An event is taken off the queue, is in hand and is fanned out; none is lost while the loop goes
on. -/
theorem fanned_append_pending {loop : HubLoop} (turn : Turn)
    (running : (loop.perform turn).1.hub.running = true) :
    loop.fanned turn ++ (loop.perform turn).1.pending = loop.pending ++ loop.taken turn := by
  cases turn with
  | broadcast event =>
    show (loop.perform (.broadcast event)).1.pending = loop.pending ++ loop.taken (.broadcast event)
    rw [taken]
    rcases loop.perform_broadcast_cases event with ⟨-, -, taken⟩ | ⟨-, -, refused⟩ | ⟨-, nobody⟩
    · rw [taken]
      exact (List.append_assoc _ _ _).symm
    · rw [refused]
      exact (List.append_nil _).symm
    · rw [nobody]
      exact (List.append_nil _).symm
  | attend request =>
    show (loop.perform (.attend request)).1.pending = loop.pending ++ []
    rw [List.append_nil, perform]
    split <;> rfl
  | pass id =>
    show (loop.pass id).pending = loop.pending ++ []
    rw [List.append_nil]
    rcases loop.pass_cases id with same | ⟨event, _, _, scans, registry, _, _, passes⟩
    · rw [same]
    · rw [passes, pending, pending, scans]
      rfl
  | advance =>
    show loop.fanned .advance ++ loop.advance.pending = loop.pending ++ []
    rw [List.append_nil]
    obtain ⟨hub, stage, handles⟩ := loop
    cases stage with
    | polling =>
      rcases poll_cases ⟨hub, .polling, handles⟩ rfl with
        leaves | ⟨-, event, rest, queue, takes⟩ | ⟨-, stays⟩
      · rw [leaves]
        rfl
      · rw [takes]
        exact queue.symm
      · rw [stays]
        rfl
    | closing => cases running
    | settling progress => cases progress <;> rfl
    | holding _ | scanning _ _ _ | leaving | ended => rfl
  | cancel | abandon => exact (List.append_nil _).symm

/-- The turn that ends the loop, and those that come later, neither take nor fan out an event. -/
theorem nothing_of_not_running {capacity : Nat} {loop : HubLoop} (sound : loop.Sound capacity)
    {turn : Turn} (ended : (loop.perform turn).1.hub.running = false) :
    loop.fanned turn = [] ∧ loop.taken turn = [] ∧ (loop.perform turn).1.stage.inHand = [] := by
  have finished : (loop.perform turn).1.stage = .ended := by
    by_contra goesOn
    rw [((sound.perform turn).running).mpr goesOn] at ended
    cases ended
  rw [finished]
  cases turn with
  | broadcast event =>
    rw [taken]
    rcases loop.perform_broadcast_cases event with ⟨-, room, taken⟩ | ⟨-, -, refused⟩ |
      ⟨-, nobody⟩
    · rw [taken] at ended
      rw [show loop.hub.running = false from ended] at room
      cases room
    · rw [refused]
      exact ⟨rfl, rfl, rfl⟩
    · rw [nobody]
      exact ⟨rfl, rfl, rfl⟩
  | advance =>
    obtain ⟨hub, stage, handles⟩ := loop
    match stage with
    | .scanning _ _ _ => cases finished
    | .polling | .holding _ | .settling _ | .leaving | .closing | .ended => exact ⟨rfl, rfl, rfl⟩
  | _ => exact ⟨rfl, rfl, rfl⟩

/-- Once the loop has ended it does not go on. -/
theorem running_of_running_perform {loop : HubLoop} {turn : Turn}
    (running : (loop.perform turn).1.hub.running = true) : loop.hub.running = true := by
  cases turn with
  | broadcast event =>
    rcases loop.perform_broadcast_cases event with ⟨-, -, taken⟩ | ⟨-, -, refused⟩ | ⟨-, nobody⟩
    · rwa [taken] at running
    · rwa [refused] at running
    · rwa [nobody] at running
  | attend request =>
    rw [perform] at running
    split at running <;> exact running
  | pass id =>
    rw [perform] at running
    rcases loop.pass_cases id with same | ⟨event, _, _, scans, registry, _, _, passes⟩
    · rwa [same] at running
    · rwa [passes] at running
  | advance =>
    obtain ⟨hub, stage, handles⟩ := loop
    cases stage with
    | polling =>
      rw [perform] at running
      rcases poll_cases ⟨hub, .polling, handles⟩ rfl with
        leaves | ⟨-, event, rest, queue, takes⟩ | ⟨-, stays⟩
      · rwa [leaves] at running
      · rwa [takes] at running
      · rwa [stays] at running
    | closing => cases running
    | settling progress => cases progress <;> exact running
    | holding _ | scanning _ _ _ | leaving | ended => exact running
  | cancel | abandon => exact running

/-! ### Once the loop is cancelled -/

/-- A loop that is cancelled takes no event off its queue, and each of its turns brings it nearer to
its end. -/
theorem perform_of_cancelled {loop : HubLoop} (cancelled : loop.hub.cancelled = true)
    (turn : Turn) :
    (loop.perform turn).1.hub.cancelled = true ∧
      loop.fanned turn ++ (loop.perform turn).1.stage.inHand = loop.stage.inHand ∧
      (loop.perform turn).1.stage.remaining = loop.stage.remaining - turn.isAdvance.toNat := by
  cases turn with
  | broadcast event =>
    rcases loop.perform_broadcast_cases event with ⟨-, -, taken⟩ | ⟨-, -, refused⟩ | ⟨-, nobody⟩
    · rw [taken]
      exact ⟨cancelled, rfl, rfl⟩
    · rw [refused]
      exact ⟨cancelled, rfl, rfl⟩
    · rw [nobody]
      exact ⟨cancelled, rfl, rfl⟩
  | attend request =>
    rw [perform]
    split <;> exact ⟨cancelled, rfl, rfl⟩
  | pass id =>
    rw [perform]
    rcases loop.pass_cases id with same | ⟨event, _, _, scans, registry, _, _, passes⟩
    · rw [same]
      exact ⟨cancelled, rfl, rfl⟩
    · rw [passes, scans]
      exact ⟨cancelled, rfl, rfl⟩
  | advance =>
    obtain ⟨hub, stage, handles⟩ := loop
    cases stage with
    | polling =>
      have leaves : advance ⟨hub, .polling, handles⟩ = ⟨hub, .leaving, handles⟩ := if_pos cancelled
      rw [perform, leaves]
      exact ⟨cancelled, rfl, rfl⟩
    | settling progress => cases progress <;> exact ⟨cancelled, rfl, rfl⟩
    | holding _ | scanning _ _ _ | leaving | closing | ended => exact ⟨cancelled, rfl, rfl⟩
  | cancel => exact ⟨rfl, rfl, rfl⟩
  | abandon => exact ⟨cancelled, rfl, rfl⟩

/-- Only the event in hand is put into outboxes. -/
theorem mem_outbox_perform {loop : HubLoop} (sound : loop.hub.registry.Sound) (turn : Turn)
    {client : Client} (member : client ∈ (loop.perform turn).1.hub.registry.clients)
    {event : Event} (waits : event ∈ client.outbox) :
    event ∈ loop.stage.inHand ∨
      ∃ before ∈ loop.hub.registry.clients, before.id = client.id ∧ event ∈ before.outbox := by
  rw [clients_perform sound, List.mem_append] at member
  rcases member with old | new
  · obtain ⟨before, present, rfl⟩ := List.mem_map.mp old
    rw [change_id]
    rcases loop.change_cases turn before with same | ⟨request, admitted, asked⟩ |
      ⟨offered, inHand, taken⟩ | ⟨standing, -, removed⟩
    · rw [same] at waits
      exact .inr ⟨before, present, rfl, waits⟩
    · rw [asked] at waits
      exact .inr ⟨before, present, rfl, (before.outbox_after_suffix _ fun event same => by
        subst same
        cases loop.stage <;> cases admitted).subset waits⟩
    · rw [taken, Client.take] at waits
      split at waits
      · rcases List.mem_append.mp waits with earlier | now
        · exact .inr ⟨before, present, rfl, earlier⟩
        · rw [List.mem_singleton.mp now]
          exact .inl inHand
      · exact .inr ⟨before, present, rfl, waits⟩
    · rw [removed, Client.removed_outbox] at waits
      exact .inr ⟨before, present, rfl, waits⟩
  · cases turn with
    | attend request =>
      rw [joining] at new
      split at new
      · rw [(Registry.Sound.eq_newcomer new).2.2] at waits
        cases waits
      · cases new
    | _ => cases new

/-! ### Runs -/

section Runs

variable (clientCapacity broadcastCapacity : Nat)

/-- The events that were handed over and taken, in that order. -/
def accepted (turns : List Turn) : List Event :=
  Machine.log perform taken (start clientCapacity broadcastCapacity) turns

/-- The events that were fanned out, in that order. -/
def fannedOut (turns : List Turn) : List Event :=
  Machine.log perform fanned (start clientCapacity broadcastCapacity) turns

variable (turns : List Turn)

theorem sound_after :
    (after clientCapacity broadcastCapacity turns).Sound (max broadcastCapacity 1) :=
  Machine.run_invariant perform (Sound (max broadcastCapacity 1))
    (fun _ turn sound => sound.perform turn) (.start clientCapacity broadcastCapacity) turns

/-- While the loop goes on nothing is lost. -/
theorem fannedOut_append_pending
    (running : (after clientCapacity broadcastCapacity turns).hub.running = true) :
    fannedOut clientCapacity broadcastCapacity turns ++
        (after clientCapacity broadcastCapacity turns).pending =
      accepted clientCapacity broadcastCapacity turns :=
  Machine.log_append_eq perform fanned pending taken (fun _ => True) (fun _ _ _ => trivial)
    (fun loop => loop.hub.running = true) (fun _ _ _ => running_of_running_perform)
    (fun _ turn _ => fanned_append_pending turn) trivial turns running

/-- The events fanned out, and the one in hand, are the first of those that were taken. -/
theorem fannedOut_isPrefix :
    fannedOut clientCapacity broadcastCapacity turns ++
        (after clientCapacity broadcastCapacity turns).stage.inHand <+:
      accepted clientCapacity broadcastCapacity turns := by
  induction turns using List.reverseRecOn with
  | nil => exact List.prefix_rfl
  | append_singleton past turn inductionHypothesis =>
    cases running : (after clientCapacity broadcastCapacity (past ++ [turn])).hub.running with
    | true =>
      rw [← fannedOut_append_pending _ _ _ running, pending, ← List.append_assoc]
      exact List.prefix_append _ _
    | false =>
      rw [after_concat] at running ⊢
      obtain ⟨nothingFanned, nothingTaken, nothingInHand⟩ :=
        nothing_of_not_running (sound_after clientCapacity broadcastCapacity past) running
      rw [fannedOut, accepted, Machine.log_concat, Machine.log_concat]
      show _ ++ fanned (after clientCapacity broadcastCapacity past) turn ++ _ <+:
        _ ++ taken (after clientCapacity broadcastCapacity past) turn
      rw [nothingFanned, nothingTaken, nothingInHand, List.append_nil, List.append_nil,
        List.append_nil]
      exact (List.prefix_append _ _).trans inductionHypothesis

end Runs

section Cancelled

variable {loop : HubLoop} (cancelled : loop.hub.cancelled = true) (future : List Turn)

include cancelled

/-- All that a cancelled loop fans out is the event that it had in hand. -/
theorem log_fanned_append_inHand :
    Machine.log perform fanned loop future ++ (Machine.run perform loop future).stage.inHand =
      loop.stage.inHand := by
  have moved := Machine.log_append_eq perform fanned (·.stage.inHand) (fun _ _ => [])
    (fun loop => loop.hub.cancelled = true)
    (fun _ turn cancelled => (perform_of_cancelled cancelled turn).1)
    (fun _ => True) (fun _ _ _ _ => trivial)
    (fun _ turn cancelled _ =>
      ((perform_of_cancelled cancelled turn).2.1).trans (List.append_nil _).symm)
    cancelled future trivial
  rwa [Machine.log_eq_nil perform (fun _ _ => rfl), List.append_nil] at moved

theorem remaining_run :
    (Machine.run perform loop future).stage.remaining =
      loop.stage.remaining - future.countP Turn.isAdvance := by
  induction future generalizing loop with
  | nil => rfl
  | cons turn rest inductionHypothesis =>
    obtain ⟨still, -, nearer⟩ := perform_of_cancelled cancelled turn
    refine (inductionHypothesis still).trans ?_
    rw [nearer, List.countP_cons]
    cases turn.isAdvance with
    | true => rw [if_pos rfl, Nat.sub_sub, Bool.toNat_true, Nat.add_comm]
    | false => rfl

/-- What is in the outboxes after a cancellation was there before or was in hand. -/
theorem mem_outbox_run (sound : loop.hub.registry.Sound) {client : Client}
    (member : client ∈ (Machine.run perform loop future).hub.registry.clients)
    {event : Event} (waits : event ∈ client.outbox) :
    event ∈ loop.stage.inHand ∨
      ∃ before ∈ loop.hub.registry.clients, before.id = client.id ∧ event ∈ before.outbox := by
  induction future using List.reverseRecOn generalizing client with
  | nil => exact .inr ⟨client, member, rfl, waits⟩
  | append_singleton past turn inductionHypothesis =>
    rw [Machine.run_concat] at member
    have soundBefore : (Machine.run perform loop past).hub.registry.Sound :=
      Machine.run_invariant perform (fun loop => loop.hub.registry.Sound)
        (fun _ turn sound => sound_perform sound turn) sound past
    rcases mem_outbox_perform soundBefore turn member waits with inHand |
      ⟨before, present, same, waited⟩
    · rw [← log_fanned_append_inHand cancelled past]
      exact .inl (List.mem_append_right _ inHand)
    · rw [← same]
      exact inductionHypothesis present waited

end Cancelled

/-- A loop that has ended stays so, and so does its registry. -/
theorem ended_run {capacity : Nat} {loop : HubLoop} (sound : loop.Sound capacity)
    (ended : loop.hub.running = false) (future : List Turn) :
    (Machine.run perform loop future).Sound capacity ∧
      (Machine.run perform loop future).hub.running = false := by
  refine Machine.run_invariant perform (fun loop => loop.Sound capacity ∧ loop.hub.running = false)
    (fun loop turn kept => ⟨kept.1.perform turn, ?_⟩) ⟨sound, ended⟩ future
  cases running : (loop.perform turn).1.hub.running with
  | false => rfl
  | true => exact (running_of_running_perform running).symm.trans kept.2

/-- Whoever receives from the queue of a client that is not registered is told that it is closed, if
nothing is left in it. -/
theorem receive_ne_empty {registry : Registry}
    (gone : ∀ client ∈ registry.clients, client.isRegistered = false) (id : Nat) :
    (registry.receive id).2 ≠ .empty := by
  unfold Registry.receive
  cases found : registry.client? id with
  | none => nofun
  | some client =>
    have away := gone client (List.mem_of_find?_eq_some found)
    dsimp only
    cases client.outbox with
    | cons event rest => nofun
    | nil =>
      rw [away]
      nofun

section Phases

variable (clientCapacity broadcastCapacity : Nat)

/-- From a cancellation on, at most the event in hand is fanned out, and only it is put into
outboxes. -/
theorem after_cancel (past future : List Turn) :
    let turns := past ++ .cancel :: future
    let before := after clientCapacity broadcastCapacity past
    let now := after clientCapacity broadcastCapacity turns
    fannedOut clientCapacity broadcastCapacity turns ++ now.stage.inHand =
        fannedOut clientCapacity broadcastCapacity past ++ before.stage.inHand ∧
      (∀ client ∈ now.hub.registry.clients, ∀ event ∈ client.outbox,
        event ∈ before.stage.inHand ∨ ∃ earlier ∈ before.hub.registry.clients,
          earlier.id = client.id ∧ event ∈ earlier.outbox) ∧
      now.stage.remaining = before.stage.remaining - future.countP Turn.isAdvance := by
  intro turns before now
  have cancelled : ((before.perform .cancel).1).hub.cancelled = true := rfl
  have run : now = Machine.run perform (before.perform .cancel).1 future :=
    after_append clientCapacity broadcastCapacity past (.cancel :: future)
  have fanned : fannedOut clientCapacity broadcastCapacity turns =
      fannedOut clientCapacity broadcastCapacity past ++
        Machine.log perform fanned (before.perform .cancel).1 future :=
    Machine.log_append perform _ _ past (.cancel :: future)
  rw [run, fanned, List.append_assoc, log_fanned_append_inHand cancelled]
  refine ⟨rfl, fun client member event waits => ?_, remaining_run cancelled future⟩
  exact mem_outbox_run cancelled future
    (sound_after clientCapacity broadcastCapacity past).registry member waits

/-- Once the loop has ended nobody is registered or will be, every outbox is closed, and no event is
taken. -/
theorem after_ended (turns future : List Turn)
    (ended : (after clientCapacity broadcastCapacity turns).hub.running = false) :
    let later := after clientCapacity broadcastCapacity (turns ++ future)
    later.hub.running = false ∧
      later.hub.registry.closed = true ∧
      later.hub.registry.clientCount = 0 ∧
      (∀ id, ∃ receipt, receipt ≠ .empty ∧
        (later.perform (.attend (.receive id))).2 = .answered (.received receipt)) ∧
      (∀ event, later.handles = true →
        (later.perform (.broadcast event)).2 = .handedOver false) ∧
      (later.perform (.attend .register)).2 = .answered (.granted none) := by
  intro later
  obtain ⟨sound, stillEnded⟩ :=
    ended_run (sound_after clientCapacity broadcastCapacity turns) ended future
  rw [← after_append] at sound stillEnded
  have stage : later.stage = .ended := by
    by_contra goesOn
    rw [sound.running.mpr goesOn] at stillEnded
    cases stillEnded
  have shut := sound.shut (by rw [stage]; rfl)
  refine ⟨stillEnded, shut.closed, shut.clientCount_eq_zero, fun id => ?_, fun event handles => ?_,
    ?_⟩
  · exact ⟨_, receive_ne_empty shut.gone id, by rw [perform, stage]; rfl⟩
  · rcases later.perform_broadcast_cases event with ⟨-, room, -⟩ | ⟨-, -, refused⟩ | ⟨nobody, -⟩
    · rw [stillEnded] at room
      cases room
    · rw [refused]
    · rw [handles] at nobody
      cases nobody
  · rw [perform, stage]
    show Answer.answered (.granted later.hub.registry.register.2) = _
    rw [Registry.register, if_pos shut.closed]

end Phases

/-- Whoever broadcasts and whatever clients do, the hub fans out the events that it took, in that
order and each once. It takes an event while its loop has not ended and there is room. From its
cancellation on it fans out at most the event that it has in hand, and its loop ends. Once the loop
has ended, nobody is registered, every outbox is closed, and no event and no client is taken any
more. -/
theorem queue_in_order_until_closed (clientCapacity broadcastCapacity : Nat)
    (turns : List Turn) :
    let state := after clientCapacity broadcastCapacity
    let fanned := fannedOut clientCapacity broadcastCapacity
    let now := state turns
    fanned turns ++ now.stage.inHand <+: accepted clientCapacity broadcastCapacity turns ∧
    (∀ event, now.handles = true → (now.perform (.broadcast event)).2 =
      .handedOver (now.hub.running && now.hub.queue.length < max broadcastCapacity 1)) ∧
    (∀ past future, turns = past ++ .cancel :: future →
      fanned turns ++ now.stage.inHand = fanned past ++ (state past).stage.inHand ∧
      (∀ client ∈ now.hub.registry.clients, ∀ event ∈ client.outbox,
        event ∈ (state past).stage.inHand ∨ ∃ before ∈ (state past).hub.registry.clients,
          before.id = client.id ∧ event ∈ before.outbox) ∧
      (8 ≤ future.countP Turn.isAdvance → now.hub.running = false)) ∧
    (now.hub.running = false → ∀ future,
      let later := state (turns ++ future)
      later.hub.running = false ∧
      later.hub.registry.closed = true ∧
      later.hub.registry.clientCount = 0 ∧
      (∀ id, ∃ receipt, receipt ≠ .empty ∧
        (later.perform (.attend (.receive id))).2 = .answered (.received receipt)) ∧
      (∀ event, later.handles = true →
        (later.perform (.broadcast event)).2 = .handedOver false) ∧
      (later.perform (.attend .register)).2 = .answered (.granted none)) := by
  intro state fanned now
  have sound : now.Sound (max broadcastCapacity 1) :=
    sound_after clientCapacity broadcastCapacity turns
  refine ⟨fannedOut_isPrefix clientCapacity broadcastCapacity turns, fun event handles => ?_, ?_,
    fun ended future => ?_⟩
  · rw [← sound.capacity]
    rcases now.perform_broadcast_cases event with ⟨-, room, taken⟩ | ⟨-, full, refused⟩ |
      ⟨nobody, -⟩
    · rw [taken, room]
    · rw [refused, full]
    · rw [handles] at nobody
      cases nobody
  · rintro past future rfl
    obtain ⟨fannedOut, outboxes, remaining⟩ :=
      after_cancel clientCapacity broadcastCapacity past future
    refine ⟨fannedOut, outboxes, fun enough => ?_⟩
    have most := (after clientCapacity broadcastCapacity past).stage.remaining_le
    have none : now.stage.remaining = 0 := remaining.trans (by omega)
    cases running : now.hub.running with
    | false => rfl
    | true => exact absurd (Stage.eq_ended_of_remaining none) (sound.running.mp running)
  · exact after_ended clientCapacity broadcastCapacity turns future ended

/-- A client that is registered between the cancellation and the shutdown is removed, and an event
that is taken then is lost. -/
theorem queue_of_cancelled_hub :
    let turns : List Turn := [.attend .register, .broadcast ⟨⟨.disks, []⟩, .epoch⟩,
      .broadcast ⟨⟨.shares, []⟩, .epoch⟩, .advance, .cancel, .attend .register, .advance,
      .pass 2, .advance, .advance, .advance, .advance, .advance,
      .broadcast ⟨⟨.disks, []⟩, .epoch⟩, .advance, .advance]
    let now := after 1 2 turns
    now.hub.running = false ∧ now.hub.registry.clientCount = 0 ∧
      fannedOut 1 2 turns = [⟨⟨.disks, []⟩, .epoch⟩] ∧
      (now.perform (.attend .register)).2 = .answered (.granted none) := by
  intro turns now
  obtain ⟨-, -, cancelled, ended⟩ := queue_in_order_until_closed 1 2 turns
  obtain ⟨fanned, -, ends⟩ := cancelled (turns.take 4) (turns.drop 5) (by rfl)
  have closed : now.hub.running = false := ends (by decide)
  obtain ⟨-, -, nobody, -, -, refused⟩ := ended closed []
  exact ⟨closed, nobody, (List.append_nil _).symm.trans fanned, refused⟩

end HubLoop

end ServerMonitor
