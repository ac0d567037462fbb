/-
This file follows a consumer of the bus. Nobody else receives from its mailbox,
so whatever the bus is asked for by others adds at most the message that is
published to the end of the queue. A step of the consumer takes the oldest
message, or ends the consumer; it ends only when it was cancelled or its mailbox
is under no topic, and leaves its mailbox under none.
-/

import ServerMonitor.Agent.Consumer
import ServerMonitor.Proofs.Bus.Enrolment

namespace ServerMonitor

open Bus

variable {Message : Type}

namespace Consumer

/-! ### A consumer on its bus -/

/-- A consumer has a mailbox of the bus, under no other topics than its own. -/
structure Attached (consumer : Consumer) (topics : List String) (bus : Bus Message) : Prop where
  issued : consumer.mailbox < bus.nextId
  wanted : ∀ topic, consumer.mailbox ∈ bus.registered topic → topic ∈ topics
  alive : consumer.running = true → bus.waiting? consumer.mailbox ≠ none
  ended : consumer.running = false → ∀ topic, consumer.mailbox ∉ bus.registered topic

/-- A consumer and its bus after a step, and what it took; nothing changes if it has to wait. -/
def advance (consumer : Consumer) (cancelled : Bool) (bus : Bus Message) :
    (Consumer × Bus Message) × Option Message :=
  (consumer.step? cancelled bus).getD ((consumer, bus), none)

theorem step?_of_ended {consumer : Consumer} (ended : consumer.running = false) (cancelled : Bool)
    (bus : Bus Message) : consumer.step? cancelled bus = none := by
  rw [step?, ended]
  rfl

/-- A consumer that was cancelled can take a step until it has ended. -/
theorem ended_of_step?_eq_none {consumer : Consumer} {bus : Bus Message}
    (waits : consumer.step? true bus = none) : consumer.running = false := by
  cases running : consumer.running with
  | false => rfl
  | true =>
    rw [step?, running] at waits
    cases waits

namespace Attached

variable {consumer : Consumer} {topics : List String} {bus : Bus Message}

/-- A new consumer has an empty mailbox under all its topics. -/
theorem start (sound : bus.Sound) (topics : List String) :
    (Consumer.start bus topics).2.Attached topics (Consumer.start bus topics).1 ∧
      (Consumer.start bus topics).1.queued (Consumer.start bus topics).2.mailbox = [] ∧
      ∀ topic ∈ topics, (Consumer.start bus topics).2.mailbox ∈
        (Consumer.start bus topics).1.registered topic := by
  have waiting : (bus.subscribe topics).1.waiting? bus.nextId = some [] :=
    (sound.waiting?_subscribe topics bus.nextId).trans (if_pos rfl)
  have fresh (topic : String) : bus.nextId ∉ bus.registered topic := fun member =>
    Nat.lt_irrefl _ (sound.registeredIssued topic _ member).2
  refine ⟨⟨Nat.lt_succ_self _, fun topic member => ?_, fun _ none => ?_, nofun⟩, ?_,
    fun topic listed => ?_⟩
  · change bus.nextId ∈ (bus.subscribe topics).1.registered topic at member
    rw [sound.registered_subscribe] at member
    by_contra unlisted
    rw [if_neg unlisted] at member
    exact fresh topic member
  · cases waiting.symm.trans none
  · show (bus.subscribe topics).1.queued bus.nextId = []
    rw [queued_eq, waiting, Option.getD_some]
  · show bus.nextId ∈ (bus.subscribe topics).1.registered topic
    rw [sound.registered_subscribe, if_pos listed]
    exact List.mem_append_right _ (List.mem_singleton_self _)

/-- What others ask of the bus leaves a consumer attached. -/
theorem perform (attached : consumer.Attached topics bus) (sound : bus.Sound)
    {request : Request Message} (foreign : request.receiver? ≠ some consumer.mailbox) :
    consumer.Attached topics (bus.perform request).1 where
  issued := Nat.lt_of_lt_of_le attached.issued (bus.nextId_le_perform request)
  wanted topic member :=
    attached.wanted topic (sound.mem_registered_of_perform attached.issued member)
  alive running gone := by
    rw [sound.waiting?_perform attached.issued foreign, Option.map_eq_none_iff] at gone
    exact attached.alive running gone
  ended stopped topic member :=
    attached.ended stopped topic (sound.mem_registered_of_perform attached.issued member)

theorem queued_perform (attached : consumer.Attached topics bus) (sound : bus.Sound)
    {request : Request Message} (foreign : request.receiver? ≠ some consumer.mailbox) :
    (bus.perform request).1.queued consumer.mailbox =
      bus.queued consumer.mailbox ++ bus.admitted consumer.mailbox request := by
  rw [queued_eq, sound.waiting?_perform attached.issued foreign, queued_eq]
  cases waiting : bus.waiting? consumer.mailbox with
  | some queue => rfl
  | none =>
    -- A mailbox without a receiver takes nothing.
    have gone : bus.acceptance consumer.mailbox ≠ .queued := by
      rw [(bus.acceptance_eq_gone_iff _).mpr waiting]
      decide
    cases request with
    | publish topic message => rw [admitted, if_neg fun taken => gone taken.2]; rfl
    | _ => rfl

/-- A running consumer takes a message that is published on a topic of its mailbox if there is
room. -/
theorem admitted_publish (attached : consumer.Attached topics bus)
    (running : consumer.running = true) {topic : String}
    (registered : consumer.mailbox ∈ bus.registered topic) (message : Message) :
    bus.admitted consumer.mailbox (.publish topic message) =
      if (bus.queued consumer.mailbox).length < bus.capacity then [message] else [] := by
  obtain ⟨queue, waiting⟩ := Option.ne_none_iff_exists'.mp (attached.alive running)
  have room : bus.acceptance consumer.mailbox = .queued ↔
      (bus.queued consumer.mailbox).length < bus.capacity := by
    rw [acceptance_eq_queued_iff, queued_eq, waiting]
    simp
  rw [admitted]
  simp only [registered, true_and, room]

/-! ### Steps -/

/-- A step does nothing, or ends the consumer, or takes the oldest message. -/
theorem advance_cases (attached : consumer.Attached topics bus) (cancelled : Bool) :
    consumer.advance cancelled bus = ((consumer, bus), none) ∨
      consumer.running = true ∧ (cancelled = true ∨ bus.isClosed consumer.mailbox = true) ∧
        consumer.advance cancelled bus = (consumer.leave bus, none) ∨
      consumer.running = true ∧ ∃ message rest,
        bus.waiting? consumer.mailbox = some (message :: rest) ∧
        consumer.advance cancelled bus =
          ((consumer, (bus.receive consumer.mailbox).1), some message) := by
  rw [advance]
  unfold step?
  cases running : consumer.running with
  | false => exact .inl rfl
  | true =>
    cases cancelled with
    | true => exact .inr (.inl ⟨rfl, .inl rfl, rfl⟩)
    | false =>
      obtain ⟨queue, waiting⟩ := Option.ne_none_iff_exists'.mp (attached.alive running)
      have after := bus.receive_fst consumer.mailbox
      rw [← Prod.eta (bus.receive consumer.mailbox), receive_snd, waiting]
      rw [waiting] at after
      cases queue with
      | cons message rest => exact .inr (.inr ⟨rfl, message, rest, rfl, rfl⟩)
      | nil =>
        cases closed : bus.isClosed consumer.mailbox with
        | true => exact .inr (.inl ⟨rfl, .inr rfl, congrArg (fun bus => (leave _ bus, none)) after⟩)
        | false => exact .inl rfl

theorem sound_advance (attached : consumer.Attached topics bus) (sound : bus.Sound)
    (cancelled : Bool) : (consumer.advance cancelled bus).1.2.Sound := by
  rcases attached.advance_cases cancelled with waits | ⟨-, -, leaves⟩ | ⟨-, _, _, -, takes⟩
  · rw [waits]
    exact sound
  · rw [leaves]
    exact (sound.perform (.unsubscribe consumer.mailbox [])).perform (.drop consumer.mailbox)
  · rw [takes]
    exact sound.perform (.receive consumer.mailbox)

theorem mailbox_advance (attached : consumer.Attached topics bus) (cancelled : Bool) :
    (consumer.advance cancelled bus).1.1.mailbox = consumer.mailbox := by
  rcases attached.advance_cases cancelled with waits | ⟨-, -, leaves⟩ | ⟨-, _, _, -, takes⟩
  · rw [waits]
  · rw [leaves]
    rfl
  · rw [takes]

/-- A consumer that leaves is under no topic any more. -/
theorem advance (attached : consumer.Attached topics bus) (sound : bus.Sound) (cancelled : Bool) :
    (consumer.advance cancelled bus).1.1.Attached topics (consumer.advance cancelled bus).1.2 := by
  rcases attached.advance_cases cancelled with waits | ⟨-, -, leaves⟩ |
    ⟨running, _, _, waiting, takes⟩
  · rw [waits]
    exact attached
  · rw [leaves]
    have gone (topic : String) : consumer.mailbox ∉
        (bus.unsubscribe consumer.mailbox []).registered topic := fun member =>
      ((sound.mem_registered_unsubscribe _ _ _ _).mp member).2 ⟨rfl, .inl rfl⟩
    exact ⟨attached.issued, fun topic member => absurd member (gone topic), nofun,
      fun _ topic => gone topic⟩
  · rw [takes]
    refine ⟨?_, fun topic member => ?_, fun _ gone => ?_, fun stopped => ?_⟩
    · exact Nat.lt_of_lt_of_le attached.issued (Nat.le_of_eq (bus.receive_frame _).2.2.symm)
    · exact attached.wanted topic (bus.registered_receive _ topic ▸ member)
    · change (bus.receive consumer.mailbox).1.waiting? consumer.mailbox = none at gone
      rw [waiting?_receive, if_pos rfl, waiting] at gone
      cases gone
    · cases running.symm.trans stopped

/-- A message moves from the queue to the consumer; a consumer that leaves loses the rest. -/
theorem taken_append_queued (attached : consumer.Attached topics bus) (cancelled : Bool) :
    let after := consumer.advance cancelled bus
    (after.2.toList ++ after.1.2.queued consumer.mailbox).Sublist (bus.queued consumer.mailbox) ∧
      (after.1.1.running = true →
        after.2.toList ++ after.1.2.queued consumer.mailbox = bus.queued consumer.mailbox) := by
  intro after
  rcases attached.advance_cases cancelled with waits | ⟨-, -, leaves⟩ |
    ⟨-, message, rest, waiting, takes⟩
  · rw [show after = _ from waits]
    exact ⟨List.Sublist.refl _, fun _ => rfl⟩
  · rw [show after = _ from leaves]
    refine ⟨?_, nofun⟩
    have gone : ((consumer.leave bus).2.waiting? consumer.mailbox) = none :=
      (waiting?_drop _ _ _).trans (if_pos rfl)
    rw [queued_eq, gone]
    exact List.nil_sublist _
  · have same : after.2.toList ++ after.1.2.queued consumer.mailbox =
        bus.queued consumer.mailbox := by
      rw [show after = _ from takes, queued_eq, waiting?_receive, if_pos rfl, queued_eq, waiting]
      rfl
    exact ⟨same ▸ List.Sublist.refl _, fun _ => same⟩

/-- A step of another consumer changes nothing for this one. -/
theorem advance_other (attached : consumer.Attached topics bus) (sound : bus.Sound)
    (cancelled : Bool) {other : Consumer} {otherTopics : List String}
    (otherAttached : other.Attached otherTopics bus) (apart : consumer.mailbox ≠ other.mailbox) :
    let after := (consumer.advance cancelled bus).1.2
    other.Attached otherTopics after ∧ after.queued other.mailbox = bus.queued other.mailbox := by
  intro after
  rcases attached.advance_cases cancelled with waits | ⟨-, -, leaves⟩ | ⟨-, _, _, -, takes⟩
  · rw [show after = bus from congrArg (·.1.2) waits]
    exact ⟨otherAttached, rfl⟩
  · rw [show after = (consumer.leave bus).2 from congrArg (·.1.2) leaves]
    have detaching : (Request.unsubscribe consumer.mailbox [] : Request Message).receiver? ≠
        some other.mailbox := nofun
    have dropping : (Request.drop consumer.mailbox : Request Message).receiver? ≠
        some other.mailbox := fun same => apart (Option.some.inj same)
    have detached := otherAttached.perform sound detaching
    have soundDetached := sound.perform (.unsubscribe consumer.mailbox [])
    refine ⟨detached.perform soundDetached dropping, ?_⟩
    refine (detached.queued_perform soundDetached dropping).trans ?_
    rw [otherAttached.queued_perform sound detaching]
    exact (List.append_nil _).trans (List.append_nil _)
  · rw [show after = (bus.receive consumer.mailbox).1 from congrArg (·.1.2) takes]
    have receiving : (Request.receive consumer.mailbox : Request Message).receiver? ≠
        some other.mailbox := fun same => apart (Option.some.inj same)
    exact ⟨otherAttached.perform sound receiving,
      (otherAttached.queued_perform sound receiving).trans (List.append_nil _)⟩

/-- A step asks the bus about the mailbox of the consumer only. -/
theorem exists_run_advance (attached : consumer.Attached topics bus) (cancelled : Bool) :
    ∃ requests : List (Request Message),
      (consumer.advance cancelled bus).1.2 = Machine.run Bus.perform bus requests ∧
      ∀ request ∈ requests, request = .unsubscribe consumer.mailbox [] ∨
        request.receiver? = some consumer.mailbox := by
  rcases attached.advance_cases cancelled with waits | ⟨-, -, leaves⟩ | ⟨-, _, _, -, takes⟩
  · exact ⟨[], congrArg (·.1.2) waits, List.forall_mem_nil _⟩
  · refine ⟨[.unsubscribe consumer.mailbox [], .drop consumer.mailbox],
      congrArg (·.1.2) leaves, List.forall_mem_cons.mpr ⟨.inl rfl, ?_⟩⟩
    exact List.forall_mem_singleton.mpr (.inr rfl)
  · exact ⟨[.receive consumer.mailbox], congrArg (·.1.2) takes,
      List.forall_mem_singleton.mpr (.inr rfl)⟩

/-- A step registers no mailbox. -/
theorem mem_registered_of_advance (attached : consumer.Attached topics bus) (sound : bus.Sound)
    {cancelled : Bool} {id : Nat} {topic : String}
    (registered : id ∈ (consumer.advance cancelled bus).1.2.registered topic) :
    id ∈ bus.registered topic := by
  rcases attached.advance_cases cancelled with waits | ⟨-, -, leaves⟩ | ⟨-, _, _, -, takes⟩
  · rwa [waits] at registered
  · rw [leaves] at registered
    exact ((sound.mem_registered_unsubscribe _ _ _ _).mp registered).1
  · rw [takes] at registered
    exact bus.registered_receive _ topic ▸ registered

/-- A consumer whose mailbox is under a topic runs, and has to wait only for messages. -/
theorem running_of_registered (attached : consumer.Attached topics bus) {topic : String}
    (registered : consumer.mailbox ∈ bus.registered topic) : consumer.running = true := by
  cases running : consumer.running with
  | true => rfl
  | false => exact absurd registered (attached.ended running topic)

theorem queued_of_step?_eq_none (attached : consumer.Attached topics bus) {topic : String}
    (registered : consumer.mailbox ∈ bus.registered topic) {cancelled : Bool}
    (waits : consumer.step? cancelled bus = none) : bus.queued consumer.mailbox = [] := by
  have running := attached.running_of_registered registered
  obtain ⟨queue, waiting⟩ := Option.ne_none_iff_exists'.mp (attached.alive running)
  unfold step? at waits
  rw [running, ← Prod.eta (bus.receive consumer.mailbox), receive_snd, waiting] at waits
  rw [queued_eq, waiting]
  cases queue with
  | nil => rfl
  | cons message rest => cases cancelled <;> cases waits

end Attached

end Consumer

end ServerMonitor
