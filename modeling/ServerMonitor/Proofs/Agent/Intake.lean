/-
This file takes a loop that takes messages off the bus apart. Whether it looks into
its mailbox or sees that it was cancelled is open whenever it could do either, and
on its way out it first unsubscribes its mailbox and then drops it; others may use the
bus in between. A step of the agent's loops is such turns without anything in between.
The loop stays while its mailbox is under a topic. If it is not cancelled it leaves a
closed mailbox empty, and once it has unsubscribed it nothing reaches the mailbox.
-/

import ServerMonitor.Proofs.Agent.Course
import ServerMonitor.Proofs.Bus.Handle

namespace ServerMonitor

open Bus

/-! ### A loop, turn by turn -/

/-- How far a loop has come. -/
inductive Intake.Stage
  | listening
  /-- It saw that it was cancelled, or that its mailbox is closed. -/
  | leaving
  /-- It has unsubscribed its mailbox. -/
  | detached
  /-- It has dropped its mailbox. -/
  | finished
deriving DecidableEq

/-- A loop on its bus, with what it hands messages to. -/
structure Intake (Message World : Type) where
  bus : Bus Message
  mailbox : Nat
  cancelled : Bool
  stage : Intake.Stage
  world : World

namespace Intake

inductive Turn (Message World : Type)
  /-- The bus is asked for something by others. -/
  | ask (request : Request Message)
  /-- Others change what the loop hands messages to. -/
  | change (world : World)
  | cancel
  /-- The loop looks into its mailbox. -/
  | receive
  /-- The loop looks whether it was cancelled. -/
  | notice
  /-- The loop does the next thing on its way out. -/
  | goOn

variable {Message World : Type}

/-- Whether the loop itself takes a turn. -/
def Turn.isOwn : Turn Message World → Bool
  | receive | notice | goOn => true
  | _ => false

def Turn.isReceive : Turn Message World → Bool
  | receive => true
  | _ => false

section

variable (handle : Message → World → World)

/-- What a turn does, and what the loop handles in it. Nobody but the loop has the receiver of its
mailbox. -/
def perform : Machine (Intake Message World) (Turn Message World) (List Message)
  | loop, .ask request =>
    if request.receiver? = some loop.mailbox then (loop, [])
    else ({ loop with bus := (loop.bus.perform request).1 }, [])
  | loop, .change world => ({ loop with world }, [])
  | loop, .cancel => ({ loop with cancelled := true }, [])
  | loop, .receive =>
    if loop.stage ≠ .listening then (loop, [])
    else
      match loop.bus.receive loop.mailbox with
      | (bus, .message message) => ({ loop with bus, world := handle message loop.world }, [message])
      | (_, .closed) => ({ loop with stage := .leaving }, [])
      | (_, .empty) => (loop, [])
  | loop, .notice =>
    if loop.stage = .listening ∧ loop.cancelled = true then ({ loop with stage := .leaving }, [])
    else (loop, [])
  | loop, .goOn =>
    match loop.stage with
    | .leaving =>
      ({ loop with bus := loop.bus.unsubscribe loop.mailbox [], stage := .detached }, [])
    | .detached => ({ loop with bus := loop.bus.drop loop.mailbox, stage := .finished }, [])
    | .listening | .finished => (loop, [])

/-- The loop after some turns. -/
def after (loop : Intake Message World) (turns : List (Turn Message World)) :
    Intake Message World :=
  (perform handle).run loop turns

/-- The messages that the loop handles, in that order. -/
def handled (loop : Intake Message World) (turns : List (Turn Message World)) : List Message :=
  (perform handle).log (fun loop turn => (perform handle loop turn).2) loop turns

end

/-- A loop that begins, with a new mailbox under the given topics. -/
def start (bus : Bus Message) (topics : List String) (world : World) : Intake Message World :=
  ⟨(bus.subscribe topics).1, (bus.subscribe topics).2, false, .listening, world⟩

/-! ### The loops of the agent -/

/-- The loop that a consumer is. -/
def ofConsumer (consumer : Consumer) (bus : Bus Message) (cancelled : Bool) (world : World) :
    Intake Message World :=
  ⟨bus, consumer.mailbox, cancelled, if consumer.running then .listening else .finished, world⟩

/-- The turns of a loop without anything in between. -/
def unhindered (sees : Bool) : List (Turn Message World) :=
  [if sees then .notice else .receive, .goOn, .goOn]

/-- A step of a consumer is turns of its loop without anything in between. -/
theorem after_unhindered (handle : Message → World → World) (consumer : Consumer)
    (bus : Bus Message) {sees cancelled : Bool} (cause : sees = true → cancelled = true)
    (world : World) :
    (ofConsumer consumer bus cancelled world).after handle (unhindered sees) =
      ofConsumer (consumer.advance sees bus).1.1 (consumer.advance sees bus).1.2 cancelled
        ((consumer.advance sees bus).2.elim world (handle · world)) := by
  unfold Consumer.advance Consumer.step? after unhindered ofConsumer
  cases running : consumer.running with
  | false => cases sees <;> simp [Machine.run, perform, running]
  | true =>
    cases sees with
    | true => simp [Machine.run, perform, cause rfl, Consumer.leave]
    | false =>
      have unmoved := bus.receive_fst consumer.mailbox
      have found := bus.receive_snd consumer.mailbox
      rcases receipt : bus.receive consumer.mailbox with ⟨next, message | _ | _⟩
      · simp [Machine.run, perform, receipt, running]
      · simp [Machine.run, perform, receipt, running]
      · rw [receipt] at unmoved found
        have same : next = bus := by
          refine unmoved.trans ?_
          split
          · rename_i waiting
            rw [waiting] at found
            cases found
          · rfl
        simp [Machine.run, perform, receipt, same, Consumer.leave]

end Intake

/-- What a loop of the agent changes. -/
def Feeder.World : Feeder → Type
  | cache => Cache
  | broadcast => Hub × Instant

/-- What a loop of the agent does with a message. -/
def Feeder.handle : (feeder : Feeder) → Payload → feeder.World → feeder.World
  | cache => fun payload cache => (Dispatch.standard.apply payload cache).1
  | broadcast => fun payload (hub, now) => ((hub.broadcast ⟨payload, now⟩).1, now)

namespace Agent

def world (agent : Agent) : (feeder : Feeder) → feeder.World
  | .cache => agent.cache
  | .broadcast => (agent.hub, agent.clock.instant)

/-- A loop of the agent. -/
def intake (agent : Agent) (feeder : Feeder) : Intake Payload feeder.World :=
  .ofConsumer (agent.consumer feeder) agent.bus agent.cancelled (agent.world feeder)

/-- A step of a loop is its turns without anything in between. -/
theorem intake_feed (agent : Agent) (feeder : Feeder) :
    (agent.act (.feed feeder)).1.intake feeder =
      (agent.intake feeder).after feeder.handle (Intake.unhindered agent.cancelled) := by
  refine .trans ?_ (Intake.after_unhindered feeder.handle _ _ id _).symm
  cases feeder with
  | cache =>
    rw [act_feed_cache]
    rfl
  | broadcast =>
    rw [act_feed_broadcast, feederStep]
    dsimp only [intake, world, consumer]
    cases (agent.broadcastLoop.advance agent.cancelled agent.bus).2 <;> rfl

theorem intake_feedHeedless (agent : Agent) (feeder : Feeder) :
    (agent.feedHeedless feeder).intake feeder =
      (agent.intake feeder).after feeder.handle (Intake.unhindered false) := by
  have blind : false = true → agent.cancelled = true := nofun
  refine .trans ?_ (Intake.after_unhindered feeder.handle _ _ blind _).symm
  rw [feedHeedless]
  cases feeder with
  | cache =>
    rw [act_feed_cache]
    rfl
  | broadcast =>
    rw [act_feed_broadcast, feederStep]
    dsimp only [intake, world, consumer]
    cases (agent.broadcastLoop.advance false agent.bus).2 <;> rfl

end Agent

/-! ### What every turn keeps -/

namespace Intake

variable {Message World : Type} (handle : Message → World → World)

/-- What holds of a loop in every run. -/
structure Proper (loop : Intake Message World) : Prop where
  sound : loop.bus.Sound
  issued : loop.mailbox < loop.bus.nextId
  alive : loop.stage ≠ .finished → loop.bus.waiting? loop.mailbox ≠ none
  /-- A loop leaves because it was cancelled, or because its mailbox is closed. -/
  cause : loop.stage ≠ .listening → loop.cancelled = true ∨
    ∀ topic, loop.mailbox ∉ loop.bus.registered topic
  detached : loop.stage = .detached ∨ loop.stage = .finished →
    ∀ topic, loop.mailbox ∉ loop.bus.registered topic

theorem Proper.start {bus : Bus Message} (sound : bus.Sound) (topics : List String)
    (world : World) : (start bus topics world).Proper where
  sound := sound.subscribe topics
  issued := Nat.lt_succ_self _
  alive _ gone := by
    cases ((sound.waiting?_subscribe topics bus.nextId).trans (if_pos rfl)).symm.trans gone
  cause left := absurd rfl left
  detached left := by rcases left with left | left <;> cases left

namespace Proper

variable {loop : Intake Message World} (proper : loop.Proper)

include proper

/-- What a loop finds when it looks into its mailbox. -/
theorem receive_cases (listening : loop.stage = .listening) :
    (∃ message rest, loop.bus.waiting? loop.mailbox = some (message :: rest) ∧
      loop.perform handle .receive = ({ loop with
        bus := (loop.bus.receive loop.mailbox).1, world := handle message loop.world },
        [message])) ∨
    loop.bus.waiting? loop.mailbox = some [] ∧
      ((∀ topic, loop.mailbox ∉ loop.bus.registered topic) ∧
        loop.perform handle .receive = ({ loop with stage := .leaving }, []) ∨
      (∃ topic, loop.mailbox ∈ loop.bus.registered topic) ∧
        loop.perform handle .receive = (loop, [])) := by
  obtain ⟨queue, waiting⟩ := Option.ne_none_iff_exists'.mp
    (proper.alive (by rw [listening]; decide))
  have found := loop.bus.receive_snd loop.mailbox
  rw [waiting] at found ⊢
  rw [perform, listening]
  cases queue with
  | cons message rest =>
    refine .inl ⟨message, rest, rfl, ?_⟩
    rw [← Prod.eta (loop.bus.receive loop.mailbox), found]
    rfl
  | nil =>
    refine .inr ⟨rfl, ?_⟩
    rw [← Prod.eta (loop.bus.receive loop.mailbox), found]
    cases closed : loop.bus.isClosed loop.mailbox with
    | true => exact .inl ⟨(proper.sound.isClosed_iff _).mp closed, rfl⟩
    | false =>
      refine .inr ⟨?_, rfl⟩
      by_contra none
      rw [not_exists, ← proper.sound.isClosed_iff, closed] at none
      cases none

theorem perform (turn : Turn Message World) : (loop.perform handle turn).1.Proper := by
  cases turn with
  | ask request =>
    rw [Intake.perform]
    split
    · exact proper
    · rename_i foreign
      have kept {topic : String}
          (registered : loop.mailbox ∈ (loop.bus.perform request).1.registered topic) :
          loop.mailbox ∈ loop.bus.registered topic :=
        proper.sound.mem_registered_of_perform proper.issued registered
      refine ⟨proper.sound.perform request,
        Nat.lt_of_lt_of_le proper.issued (loop.bus.nextId_le_perform request), fun goes gone => ?_,
        fun left => (proper.cause left).imp_right fun none topic member => none topic (kept member),
        fun left topic member => proper.detached left topic (kept member)⟩
      rw [proper.sound.waiting?_perform proper.issued foreign, Option.map_eq_none_iff] at gone
      exact proper.alive goes gone
  | change world => exact ⟨proper.sound, proper.issued, proper.alive, proper.cause, proper.detached⟩
  | cancel =>
    exact ⟨proper.sound, proper.issued, proper.alive, fun _ => .inl rfl, proper.detached⟩
  | receive =>
    by_cases listening : loop.stage = .listening
    · rcases proper.receive_cases handle listening with ⟨message, rest, waiting, takes⟩ |
        ⟨-, ⟨none, leaves⟩ | ⟨-, waits⟩⟩
      · rw [takes]
        refine ⟨proper.sound.receive _, ?_, fun _ gone => ?_, fun left => absurd listening left,
          fun left => ?_⟩
        · exact Nat.lt_of_lt_of_eq proper.issued (loop.bus.receive_frame _).2.2.symm
        · change (loop.bus.receive loop.mailbox).1.waiting? loop.mailbox = none at gone
          rw [waiting?_receive, if_pos rfl, waiting] at gone
          cases gone
        · rcases left with left | left <;> cases listening.symm.trans left
      · rw [leaves]
        refine ⟨proper.sound, proper.issued, fun _ => proper.alive ?_, fun _ => .inr none,
          fun _ => none⟩
        rw [listening]
        decide
      · rwa [waits]
    · rw [Intake.perform, if_pos listening]
      exact proper
  | notice =>
    rw [Intake.perform]
    split
    · rename_i sees
      refine ⟨proper.sound, proper.issued, fun _ => proper.alive ?_, fun _ => .inl sees.2,
        fun left => ?_⟩
      · rw [sees.1]
        decide
      · rcases left with left | left <;> cases left
    · exact proper
  | goOn =>
    rw [Intake.perform]
    cases stage : loop.stage with
    | listening | finished => exact proper
    | leaving =>
      have none (topic : String) : loop.mailbox ∉
          (loop.bus.unsubscribe loop.mailbox []).registered topic := fun member =>
        ((proper.sound.mem_registered_unsubscribe _ _ _ _).mp member).2 ⟨rfl, .inl rfl⟩
      refine ⟨proper.sound.perform (.unsubscribe _ []), proper.issued, fun _ => proper.alive ?_,
        fun _ => .inr none, fun _ => none⟩
      rw [stage]
      decide
    | detached =>
      have none := proper.detached (.inl stage)
      exact ⟨proper.sound.drop _, proper.issued, fun goes => absurd rfl goes, fun _ => .inr none,
        fun _ => none⟩

theorem after (turns : List (Turn Message World)) : (loop.after handle turns).Proper :=
  (Intake.perform handle).run_invariant Proper (fun _ turn proper => proper.perform handle turn)
    proper turns

/-- What the loop does leaves all other mailboxes as they are. -/
theorem frame_of_isOwn {turn : Turn Message World} (own : turn.isOwn = true) :
    let next := (loop.perform handle turn).1
    (∀ topic, (next.bus.registered topic).filter (· ≠ loop.mailbox) =
      (loop.bus.registered topic).filter (· ≠ loop.mailbox)) ∧
    ∀ other ≠ loop.mailbox, next.bus.waiting? other = loop.bus.waiting? other := by
  cases turn with
  | ask | change | cancel => cases own
  | receive =>
    by_cases listening : loop.stage = .listening
    · rcases proper.receive_cases handle listening with ⟨message, rest, waiting, takes⟩ |
        ⟨-, ⟨-, leaves⟩ | ⟨-, waits⟩⟩
      · rw [takes]
        refine ⟨fun topic => ?_, fun other different => ?_⟩
        · dsimp only
          rw [registered_receive]
        · exact (loop.bus.waiting?_receive _ other).trans (if_neg different)
      · rw [leaves]
        exact ⟨fun _ => rfl, fun _ _ => rfl⟩
      · rw [waits]
        exact ⟨fun _ => rfl, fun _ _ => rfl⟩
    · rw [Intake.perform, if_pos listening]
      exact ⟨fun _ => rfl, fun _ _ => rfl⟩
  | notice =>
    rw [Intake.perform]
    split <;> exact ⟨fun _ => rfl, fun _ _ => rfl⟩
  | goOn =>
    rw [Intake.perform]
    cases loop.stage with
    | listening | finished => exact ⟨fun _ => rfl, fun _ _ => rfl⟩
    | leaving => exact ⟨proper.sound.registered_unsubscribe_filter _ _, fun _ _ => rfl⟩
    | detached =>
      exact ⟨fun _ => rfl, fun other different =>
        (loop.bus.waiting?_drop _ other).trans (if_neg different)⟩

end Proper

/-! ### Turns that do not matter -/

theorem mailbox_perform (loop : Intake Message World) (turn : Turn Message World) :
    (loop.perform handle turn).1.mailbox = loop.mailbox := by
  cases turn with
  | ask request => rw [perform]; split <;> rfl
  | change | cancel => rfl
  | receive =>
    rw [perform]
    split
    · rfl
    · split <;> rfl
  | notice => rw [perform]; split <;> rfl
  | goOn => rw [perform]; split <;> rfl

theorem mailbox_after (loop : Intake Message World) (turns : List (Turn Message World)) :
    (loop.after handle turns).mailbox = loop.mailbox :=
  (perform handle).run_invariant (fun later => later.mailbox = loop.mailbox)
    (fun later turn same => (later.mailbox_perform handle turn).trans same) rfl turns

/-- Whoever was cancelled stays so. -/
theorem cancelled_perform {loop : Intake Message World} (cancelled : loop.cancelled = true)
    (turn : Turn Message World) : (loop.perform handle turn).1.cancelled = true := by
  cases turn with
  | ask request => rw [perform]; split <;> exact cancelled
  | change => exact cancelled
  | cancel => rfl
  | receive =>
    rw [perform]
    split
    · exact cancelled
    · split <;> exact cancelled
  | notice => rw [perform]; split <;> exact cancelled
  | goOn => rw [perform]; split <;> exact cancelled

theorem uncancelled_of_after {loop : Intake Message World} {turns : List (Turn Message World)}
    (uncancelled : (loop.after handle turns).cancelled = false) : loop.cancelled = false := by
  by_contra cancelled
  rw [Bool.not_eq_false] at cancelled
  have still := (perform handle).run_invariant (·.cancelled = true)
    (fun _ turn cancelled => cancelled_perform handle cancelled turn) cancelled turns
  cases still.symm.trans uncancelled

/-- A loop that has left its mailbox handles nothing and does not come back. -/
theorem perform_of_left {loop : Intake Message World} (left : loop.stage ≠ .listening)
    (turn : Turn Message World) :
    (loop.perform handle turn).1.stage ≠ .listening ∧ (loop.perform handle turn).2 = [] := by
  cases turn with
  | ask request => rw [perform]; split <;> exact ⟨left, rfl⟩
  | change | cancel => exact ⟨left, rfl⟩
  | receive => rw [perform, if_pos left]; exact ⟨left, rfl⟩
  | notice => rw [perform, if_neg fun sees => left sees.1]; exact ⟨left, rfl⟩
  | goOn =>
    rw [perform]
    cases stage : loop.stage with
    | listening => exact absurd stage left
    | leaving | detached => exact ⟨nofun, rfl⟩
    | finished => exact ⟨left, rfl⟩

theorem after_of_left {loop : Intake Message World} (left : loop.stage ≠ .listening)
    (turns : List (Turn Message World)) :
    (loop.after handle turns).stage ≠ .listening ∧ loop.handled handle turns = [] := by
  induction turns generalizing loop with
  | nil => exact ⟨left, rfl⟩
  | cons turn rest inductionHypothesis =>
    obtain ⟨stillLeft, nothing⟩ := perform_of_left handle left turn
    obtain ⟨later, nothingLater⟩ := inductionHypothesis stillLeft
    refine ⟨later, ?_⟩
    show (loop.perform handle turn).2 ++ _ = []
    rw [nothing]
    exact nothingLater

/-- A loop that has unsubscribed its mailbox stays without. -/
theorem gone_perform {loop : Intake Message World}
    (gone : loop.stage = .detached ∨ loop.stage = .finished) (turn : Turn Message World) :
    (loop.perform handle turn).1.stage = .detached ∨
      (loop.perform handle turn).1.stage = .finished := by
  have left : loop.stage ≠ .listening := by rcases gone with stage | stage <;> simp [stage]
  cases turn with
  | ask request => rw [perform]; split <;> exact gone
  | change | cancel => exact gone
  | receive => rw [perform, if_pos left]; exact gone
  | notice => rw [perform, if_neg fun sees => left sees.1]; exact gone
  | goOn =>
    rw [perform]
    rcases gone with stage | stage
    · rw [stage]
      exact .inr rfl
    · rw [stage]
      exact .inr stage

/-! ### What is handed on -/

/-- Unless others change it, what the loop hands messages to changes with what the loop handles. -/
theorem world_perform (loop : Intake Message World) {turn : Turn Message World}
    (own : ∀ world, turn ≠ .change world) :
    (loop.perform handle turn).1.world =
      (loop.perform handle turn).2.foldl (fun world message => handle message world)
        loop.world := by
  cases turn with
  | ask request => rw [perform]; split <;> rfl
  | change world => exact absurd rfl (own world)
  | cancel => rfl
  | receive =>
    rw [perform]
    split
    · rfl
    · split <;> rfl
  | notice => rw [perform]; split <;> rfl
  | goOn => rw [perform]; split <;> rfl

/-- What the loop handles in a run it hands on, in that order and each message once. -/
theorem world_after (loop : Intake Message World) {turns : List (Turn Message World)}
    (own : ∀ world, .change world ∉ turns) :
    (loop.after handle turns).world =
      (loop.handled handle turns).foldl (fun world message => handle message world) loop.world := by
  induction turns generalizing loop with
  | nil => rfl
  | cons turn rest inductionHypothesis =>
    have first := loop.world_perform handle fun world same => own world (same ▸ List.mem_cons_self)
    have later := inductionHypothesis (loop.perform handle turn).1 fun world member =>
      own world (List.mem_cons_of_mem _ member)
    rw [first] at later
    refine later.trans ?_
    rw [← List.foldl_append]
    rfl

/-! ### Closed mailboxes -/

/-- A loop that listens to a closed mailbox with this queue. -/
structure Drains (loop : Intake Message World) (queue : List Message) : Prop where
  proper : loop.Proper
  listening : loop.stage = .listening
  closed : ∀ topic, loop.mailbox ∉ loop.bus.registered topic
  waiting : loop.bus.waiting? loop.mailbox = some queue

namespace Drains

variable {loop : Intake Message World} {queue : List Message}

/-- A turn moves at most a message from the queue to the loop, which leaves only once there is
none. -/
theorem perform (drains : loop.Drains queue) {turn : Turn Message World}
    (uncancelled : (loop.perform handle turn).1.cancelled = false) :
    (∃ rest, (loop.perform handle turn).1.Drains rest ∧
      (loop.perform handle turn).2 ++ rest = queue ∧
      (loop.perform handle turn).2.length = if turn.isReceive then 1 else 0) ∨
    (loop.perform handle turn).1.stage ≠ .listening ∧ (loop.perform handle turn).2 = queue := by
  have proper := drains.proper.perform handle turn
  cases turn with
  | ask request =>
    refine .inl ⟨queue, ?_⟩
    rw [Intake.perform] at proper ⊢
    split
    · exact ⟨drains, rfl, rfl⟩
    · rename_i foreign
      rw [if_neg foreign] at proper
      refine ⟨⟨proper, drains.listening, fun topic member => ?_, ?_⟩, rfl, rfl⟩
      · exact drains.closed topic
          (drains.proper.sound.mem_registered_of_perform drains.proper.issued member)
      · have nothing : loop.bus.admitted loop.mailbox request = [] := by
          cases request with
          | publish topic message => exact if_neg fun taken => drains.closed topic taken.1
          | _ => rfl
        refine (drains.proper.sound.waiting?_perform drains.proper.issued foreign).trans ?_
        rw [drains.waiting, nothing, Option.map_some, List.append_nil]
  | change world =>
    exact .inl ⟨queue, ⟨proper, drains.listening, drains.closed, drains.waiting⟩, rfl, rfl⟩
  | cancel => cases uncancelled
  | receive =>
    rcases drains.proper.receive_cases handle drains.listening with
      ⟨message, rest, waiting, takes⟩ | ⟨waiting, ⟨-, leaves⟩ | ⟨⟨topic, member⟩, -⟩⟩
    · obtain rfl := Option.some.inj (drains.waiting.symm.trans waiting)
      rw [takes] at proper ⊢
      refine .inl ⟨rest, ⟨proper, drains.listening, fun topic member => ?_, ?_⟩, rfl, rfl⟩
      · exact drains.closed topic (loop.bus.registered_receive _ topic ▸ member)
      · refine (loop.bus.waiting?_receive _ _).trans ?_
        rw [if_pos rfl, waiting]
        rfl
    · obtain rfl := Option.some.inj (drains.waiting.symm.trans waiting)
      rw [leaves]
      exact .inr ⟨nofun, rfl⟩
    · exact absurd member (drains.closed topic)
  | notice =>
    have unseen : loop.perform handle .notice = (loop, []) := by
      refine if_neg fun sees => ?_
      rw [cancelled_perform handle sees.2] at uncancelled
      cases uncancelled
    rw [unseen]
    exact .inl ⟨queue, drains, rfl, rfl⟩
  | goOn =>
    have stays : loop.perform handle .goOn = (loop, []) := by
      rw [Intake.perform, drains.listening]
    rw [stays]
    exact .inl ⟨queue, drains, rfl, rfl⟩

/-- From the moment on at which its mailbox is closed a loop that is not cancelled handles what is
queued then, one message each time it looks, and leaves when it finds nothing more. -/
theorem after (drains : loop.Drains queue) {turns : List (Turn Message World)}
    (uncancelled : (loop.after handle turns).cancelled = false) :
    (∃ rest, (loop.after handle turns).Drains rest ∧ loop.handled handle turns ++ rest = queue ∧
      (loop.handled handle turns).length = turns.countP Turn.isReceive) ∨
    (loop.after handle turns).stage ≠ .listening ∧ loop.handled handle turns = queue := by
  induction turns generalizing loop queue with
  | nil => exact .inl ⟨queue, drains, rfl, rfl⟩
  | cons turn others inductionHypothesis =>
    have split : loop.handled handle (turn :: others) = (loop.perform handle turn).2 ++
        (loop.perform handle turn).1.handled handle others := rfl
    rw [split]
    rcases drains.perform handle (uncancelled_of_after handle uncancelled) with
      ⟨rest, drainsNext, first, looked⟩ | ⟨left, all⟩
    · rcases inductionHypothesis drainsNext uncancelled with
        ⟨last, drainsLast, later, lookedLater⟩ | ⟨left, later⟩
      · refine .inl ⟨last, drainsLast, ?_, ?_⟩
        · rw [List.append_assoc, later, first]
        · rw [List.length_append, looked, lookedLater, List.countP_cons, Nat.add_comm]
      · exact .inr ⟨left, by rw [later, first]⟩
    · obtain ⟨stillLeft, nothing⟩ := after_of_left handle left others
      exact .inr ⟨stillLeft, by rw [nothing, List.append_nil, all]⟩

end Drains

/-! ### Runs -/

/-- A loop of the agent runs on any bus with a new mailbox, while others use the bus and the loop
may be cancelled. As long as it is not cancelled and its mailbox is under a topic, it does not end.
If it listens when its mailbox is under no topic any more, and is not cancelled later, it handles
what is queued at that moment, in order, one message each time it looks, and then leaves. What it
handles it hands on, in the same order, and it hands on nothing else. Once it has unsubscribed its
mailbox, however it came to that, the mailbox is under no topic and is counted in no publication.
Whatever the loop does leaves the registrations and the queues of all other mailboxes as they are.
The steps of the agent's loops are such turns. -/
theorem loop_drains_and_detaches (feeder : Feeder) (capacity : Nat)
    (past : List (Request Payload)) (topics : List String) (world : feeder.World)
    (turns : List (Turn Payload feeder.World)) :
    let loop := (start (Bus.after capacity past) topics world).after feeder.handle turns
    let own := loop.mailbox
    (loop.cancelled = false → (∃ topic, own ∈ loop.bus.registered topic) →
      loop.stage = .listening) ∧
    (loop.stage = .listening → (∀ topic, own ∉ loop.bus.registered topic) → ∀ future,
      let later := loop.after feeder.handle future
      let handled := loop.handled feeder.handle future
      later.cancelled = false →
        (later.stage = .listening → handled ++ later.bus.queued own = loop.bus.queued own ∧
          handled.length = future.countP Turn.isReceive) ∧
        (later.stage ≠ .listening → handled = loop.bus.queued own)) ∧
    (∀ future, (∀ changed, .change changed ∉ future) →
      (loop.after feeder.handle future).world = (loop.handled feeder.handle future).foldl
        (fun world message => feeder.handle message world) loop.world) ∧
    (loop.stage = .detached ∨ loop.stage = .finished → ∀ future,
      let later := loop.after feeder.handle future
      (∀ topic, own ∉ later.bus.registered topic) ∧
      ∀ topic payload, (later.bus.publish topic payload).2 = (later.bus.registered topic).countP
        fun other => decide (other ≠ own ∧ later.bus.acceptance other = .queued)) ∧
    (∀ turn, turn.isOwn = true →
      let next := (loop.perform feeder.handle turn).1
      (∀ topic, (next.bus.registered topic).filter (· ≠ own) =
        (loop.bus.registered topic).filter (· ≠ own)) ∧
      ∀ other ≠ own, next.bus.waiting? other = loop.bus.waiting? other) ∧
    ∀ agent : Agent,
      (agent.act (.feed feeder)).1.intake feeder =
        (agent.intake feeder).after feeder.handle (unhindered agent.cancelled) ∧
      (agent.feedHeedless feeder).intake feeder =
        (agent.intake feeder).after feeder.handle (unhindered false) := by
  intro loop own
  have proper : loop.Proper :=
    (Proper.start (Sound.run capacity past) topics world).after feeder.handle turns
  refine ⟨fun uncancelled ⟨topic, member⟩ => ?_, fun listening closed future => ?_,
    fun future own => loop.world_after feeder.handle own, fun gone future => ?_,
    fun turn ownTurn => proper.frame_of_isOwn feeder.handle ownTurn,
    fun agent => ⟨agent.intake_feed feeder, agent.intake_feedHeedless feeder⟩⟩
  · by_contra left
    rcases proper.cause left with cancelled | none
    · cases cancelled.symm.trans uncancelled
    · exact none topic member
  · intro later handled uncancelled
    obtain ⟨queue, waiting⟩ := Option.ne_none_iff_exists'.mp
      (proper.alive (by rw [listening]; decide))
    have drains : loop.Drains queue := ⟨proper, listening, closed, waiting⟩
    have queued : loop.bus.queued own = queue := by rw [queued_eq, waiting, Option.getD_some]
    rw [queued]
    rcases drains.after feeder.handle uncancelled with ⟨rest, still, all, looked⟩ | ⟨left, all⟩
    · refine ⟨fun _ => ⟨?_, looked⟩, fun left => absurd still.listening left⟩
      have waitingLater := still.waiting
      rw [loop.mailbox_after feeder.handle future] at waitingLater
      rw [queued_eq, show later.bus.waiting? own = some rest from waitingLater, Option.getD_some]
      exact all
    · exact ⟨fun still => absurd still left, fun _ => all⟩
  · intro later
    have properLater : later.Proper := proper.after feeder.handle future
    have goneLater := (perform feeder.handle).run_invariant
      (fun loop => loop.stage = .detached ∨ loop.stage = .finished)
      (fun _ turn gone => gone_perform feeder.handle gone turn) gone future
    have none := properLater.detached goneLater
    rw [loop.mailbox_after feeder.handle future] at none
    refine ⟨none, fun topic payload => ?_⟩
    rw [properLater.sound.publish_snd]
    refine List.countP_congr fun other member => ?_
    have different : other ≠ loop.mailbox := fun same => none topic (same ▸ member)
    rw [decide_eq_true_iff, decide_eq_true_iff, and_iff_right different]

/-- A loop with two messages in its mailbox loses its two topics one by one; it handles both and
leaves, and a message that is published later reaches nobody. -/
theorem two_messages_of_closed_mailbox :
    let event (name : String) : Payload :=
      ⟨.collectorState, ⟨Kind.collectorState.topic, name, true, .running, 10, .epoch⟩⟩
    let turns : List (Turn Payload Feeder.cache.World) :=
      [.ask (.publish "a" (event "gpu")), .ask (.publish "b" (event "ups")),
        .ask (.unsubscribe 1 ["a"]), .ask (.unsubscribe 1 ["b"])]
    let loop := (start (Bus.after 4 []) ["a", "b"] Cache.empty).after Feeder.cache.handle turns
    let future : List (Turn Payload Feeder.cache.World) :=
      [.receive, .ask (.publish "a" (event "zfs")), .receive, .receive, .goOn, .goOn]
    let later := loop.after Feeder.cache.handle future
    loop.stage = .listening ∧ later.stage = .finished ∧
      loop.handled Feeder.cache.handle future = [event "gpu", event "ups"] ∧
      (later.bus.publish "a" (event "zfs")).2 = 0 := by
  intro event turns loop future later
  have closed (topic : String) : loop.mailbox ∉ loop.bus.registered topic := List.not_mem_nil
  have listening : loop.stage = .listening := by decide +kernel
  have uncancelled : later.cancelled = false := by decide +kernel
  have ended : later.stage = .finished := by decide +kernel
  have left : later.stage ≠ .listening := by decide +kernel
  have queued : loop.bus.queued loop.mailbox = [event "gpu", event "ups"] := rfl
  obtain ⟨-, drains, -⟩ :=
    loop_drains_and_detaches .cache 4 [] ["a", "b"] Cache.empty turns
  have all := (drains listening closed future uncancelled).2 left
  exact ⟨listening, ended, all.trans queued, by decide +kernel⟩

end Intake

end ServerMonitor
