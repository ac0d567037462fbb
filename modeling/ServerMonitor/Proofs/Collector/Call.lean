/-
This file lets calls that enable and disable collectors run at once. A call first
takes its turn at the roster, which it holds alone, and finds its answer there. If
it changed a collector it publishes the event that announces the change in a later
turn; in between other calls may take their turns, mailboxes may be read and time
may pass. A call that is not interrupted is what the agent does when it is asked.
-/

import ServerMonitor.Agent.Control
import ServerMonitor.Proofs.Bus.Delivery
import ServerMonitor.Proofs.Collector.Condition

namespace ServerMonitor

open Collector

/-- Which collector a call turns on or off. -/
structure Switch where
  name : String
  on : Bool

/-- How far a call has come. -/
inductive Call
  | waiting (switch : Switch)
  /-- It changed a collector and has yet to announce the change. -/
  | announcing (event : CollectorStateEvent)
  | returned (outcome : Except Refusal Unit)

namespace Call

/-- A call that found its answer. -/
def answered : Roster.Reply → Call
  | .answered (.error refusal) => .returned (.error refusal)
  | .answered (.ok (some event)) => .announcing event
  | _ => .returned (.ok ())

/-- The event that a call has yet to publish. -/
def pending : Call → Option CollectorStateEvent
  | announcing event => some event
  | _ => none

def hasReturned : Call → Bool
  | returned _ => true
  | _ => false

theorem pending_answered (reply : Roster.Reply) : (answered reply).pending = reply.event? := by
  match reply with
  | .answered (.error _) | .answered (.ok none) | .answered (.ok (some _)) | .started _
  | .handedBack _ | .done => rfl

theorem pending_of_hasReturned {call : Call} (returned : call.hasReturned = true) :
    call.pending = none := by
  cases call with
  | returned outcome => rfl
  | waiting switch => cases returned
  | announcing event => cases returned

end Call

/-- An agent and the calls made to it. -/
structure Console where
  agent : Agent
  calls : List Call

namespace Console

/-! ### Turns -/

inductive Turn
  /-- A call takes its next step. -/
  | call (index : Nat)
  /-- A mailbox is read. -/
  | receive (mailbox : Nat)
  /-- Time passes. -/
  | pass (time : Nat) (clock : Clock)

/-- What comes of a turn. -/
structure Happening where
  /-- The change of a collector, by the event that is to announce it. -/
  changed : Option CollectorStateEvent
  published : Option CollectorStateEvent
  /-- The message taken from a mailbox. -/
  received : Option Payload

/-- What a call asks of the roster. -/
def request (agent : Agent) (switch : Switch) : Roster.Request :=
  if switch.on then .enable switch.name agent.time agent.clock.instant
  else .disable switch.name agent.clock.instant

def perform : Machine Console Turn Happening
  | console, .call index =>
    match console.calls[index]? with
    | some (.waiting switch) =>
      let (roster, reply) := console.agent.roster.perform (request console.agent switch)
      let call := Call.answered reply
      (⟨{ console.agent with roster }, console.calls.set index call⟩, ⟨call.pending, none, none⟩)
    | some (.announcing event) =>
      (⟨console.agent.announceState (some event), console.calls.set index (.returned (.ok ()))⟩,
        ⟨none, some event, none⟩)
    | _ => (console, ⟨none, none, none⟩)
  | console, .receive mailbox =>
    let (bus, receipt) := console.agent.bus.receive mailbox
    ({ console with agent := { console.agent with bus } },
      ⟨none, none, match receipt with | .message payload => some payload | _ => none⟩)
  | console, .pass time clock =>
    ({ console with agent := { console.agent with time, clock } }, ⟨none, none, none⟩)

/-- The console after a list of turns. -/
def after (console : Console) (turns : List Turn) : Console := Machine.run perform console turns

theorem after_concat (console : Console) (past : List Turn) (turn : Turn) :
    console.after (past ++ [turn]) = ((console.after past).perform turn).1 :=
  Machine.run_concat perform console past turn

/-- What the agent does when it is asked to turn a collector on or off. -/
def grant (agent : Agent) (switch : Switch) : Except Refusal Agent :=
  if switch.on then agent.enable switch.name else agent.disable switch.name

/-- A call that is not interrupted does what the agent does. -/
theorem after_uninterrupted (agent : Agent) (switch : Switch) :
    (∀ next, grant agent switch = .ok next →
      Console.after ⟨agent, [.waiting switch]⟩ [.call 0, .call 0] =
        ⟨next, [.returned (.ok ())]⟩) ∧
    ∀ refusal, grant agent switch = .error refusal →
      Console.after ⟨agent, [.waiting switch]⟩ [.call 0, .call 0] =
        ⟨agent, [.returned (.error refusal)]⟩ := by
  obtain ⟨outcome, asked, refused, granted⟩ :
      ∃ outcome : Except Refusal (Roster × Option CollectorStateEvent),
        (∀ next event, outcome = .ok (next, event) →
          agent.roster.perform (request agent switch) = (next, .answered (.ok event))) ∧
        (∀ refusal, outcome = .error refusal →
          agent.roster.perform (request agent switch) =
            (agent.roster, .answered (.error refusal))) ∧
        grant agent switch = outcome.map fun result =>
          Agent.announceState { agent with roster := result.1 } result.2 := by
    unfold request grant
    cases switch.on
    · refine ⟨agent.roster.disable switch.name agent.clock.instant, ?_, ?_, rfl⟩ <;>
        simp +contextual [Roster.perform]
    · refine ⟨agent.roster.enable switch.name agent.time agent.clock.instant, ?_, ?_, rfl⟩ <;>
        simp +contextual [Roster.perform]
  rw [granted]
  rcases outcome with refusal | ⟨roster, change⟩
  · have performed := refused refusal rfl
    simp [Except.map, after, Machine.run, perform, performed, Call.answered]
  · have performed := asked roster change rfl
    cases change <;>
      simp [Except.map, after, Machine.run, perform, performed, Call.answered,
        Agent.announceState]

/-! ### What a turn does -/

/-- The events that are still to be published. -/
def pending (console : Console) : List CollectorStateEvent :=
  console.calls.flatMap fun call => call.pending.toList

/-- One call goes on and the others stay where they are. -/
theorem pending_set {calls : List Call} {index : Nat} {old : Call}
    (held : calls[index]? = some old) (new : Call) :
    (old.pending.toList ++ (calls.set index new).flatMap fun call => call.pending.toList).Perm
      (new.pending.toList ++ calls.flatMap fun call => call.pending.toList) := by
  obtain ⟨within, rfl⟩ := List.getElem?_eq_some_iff.mp held
  have changed := (List.set_perm_cons_eraseIdx within new).flatMap_right
    fun call => call.pending.toList
  have before := (List.getElem_cons_eraseIdx_perm within).symm.flatMap_right
    fun call : Call => call.pending.toList
  rw [List.flatMap_cons] at changed before
  -- Both sides are the old event, the new one and what the other calls have to publish.
  refine (changed.append_left _).trans (.trans ?_ (before.append_left _).symm)
  rw [← List.append_assoc, ← List.append_assoc]
  exact List.perm_append_comm.append_right _

/-- What is changed is to be published, and nothing else. -/
theorem pending_perform (console : Console) (turn : Turn) :
    ((console.perform turn).2.changed.toList ++ console.pending).Perm
      ((console.perform turn).2.published.toList ++ (console.perform turn).1.pending) := by
  cases turn with
  | call index =>
    rw [perform]
    cases held : console.calls[index]? with
    | none => exact .refl _
    | some call =>
      cases call with
      | waiting switch => exact (pending_set held _).symm
      | announcing event => exact (pending_set held (.returned (.ok ()))).symm
      | returned outcome => exact .refl _
  | receive mailbox => exact .refl _
  | pass time clock => exact .refl _

/-- No collector changes but the one that is to be announced. -/
theorem tells_perform (console : Console) (turn : Turn) :
    console.agent.roster.Tells (console.perform turn).1.agent.roster
      (console.perform turn).2.changed := by
  cases turn with
  | call index =>
    rw [perform]
    cases console.calls[index]? with
    | none => exact fun _ => rfl
    | some call =>
      cases call with
      | waiting switch =>
        dsimp only
        rw [Call.pending_answered, request]
        split
        · exact Roster.tells_enable _ _ _ _
        · exact Roster.tells_disable _ _ _
      | announcing event => exact fun _ => rfl
      | returned outcome => exact fun _ => rfl
  | receive mailbox => exact fun _ => rfl
  | pass time clock => exact fun _ => rfl

/-! ### Mailboxes -/

/-- The payload that announces a change. -/
def announcement (event : CollectorStateEvent) : Payload := ⟨.collectorState, event⟩

/-- What a turn takes from a mailbox. -/
def taken (mailbox : Nat) : Turn → Happening → Option Payload
  | .receive other, happening => if other = mailbox then happening.received else none
  | _, _ => none

/-- A mailbox is registered for changes of collectors and holds the given payloads. -/
structure Watches (console : Console) (mailbox : Nat) (queue : List Payload) : Prop where
  sound : console.agent.bus.Sound
  serves : console.agent.bus.Serves ⟨mailbox, {Agent.stateTopic.name}, queue, true⟩

namespace Watches

variable {console : Console} {mailbox : Nat} {queue : List Payload}

/-- An event is put at the end of the queue of a mailbox that has room for it. -/
theorem announce (watches : console.Watches mailbox queue)
    (room : console.agent.bus.acceptance mailbox = .queued) (event : CollectorStateEvent)
    (calls : List Call) :
    Watches ⟨console.agent.announceState (some event), calls⟩ mailbox
      (queue ++ [announcement event]) := by
  have listed := watches.serves.registered rfl _ (Finset.mem_singleton_self _)
  have accepts := (watches.serves.accepts_iff Agent.stateTopic.name).mpr ⟨listed, room⟩
  have serves := watches.serves.publish watches.sound Agent.stateTopic.name (announcement event)
  rw [Subscriber.after, if_pos accepts] at serves
  exact ⟨watches.sound.publish _ _, serves⟩

/-- The oldest payload is taken off the queue of a mailbox that is read. -/
theorem receive (watches : console.Watches mailbox queue) (other : Nat) :
    ∃ later, (console.perform (.receive other)).1.Watches mailbox later ∧
      (taken mailbox (.receive other) (console.perform (.receive other)).2).toList ++ later =
        queue := by
  have serves := watches.serves.receive other
  rw [Subscriber.after] at serves
  by_cases own : other = mailbox
  · rw [if_pos ⟨own, rfl⟩] at serves
    refine ⟨queue.tail, ⟨watches.sound.receive other, serves⟩, ?_⟩
    rw [taken, if_pos own, perform]
    dsimp only
    rw [Bus.receive_snd, own, watches.serves.waiting, if_pos rfl]
    cases queue with
    | nil => cases console.agent.bus.isClosed mailbox <;> rfl
    | cons payload rest => rfl
  · rw [if_neg fun same => own same.1] at serves
    refine ⟨queue, ⟨watches.sound.receive other, serves⟩, ?_⟩
    rw [taken, if_neg own]
    rfl

theorem perform (watches : console.Watches mailbox queue) (turn : Turn)
    (room : (console.perform turn).2.published ≠ none →
      console.agent.bus.acceptance mailbox = .queued) :
    ∃ later, (console.perform turn).1.Watches mailbox later ∧
      (taken mailbox turn (console.perform turn).2).toList ++ later =
        queue ++ (console.perform turn).2.published.toList.map announcement := by
  cases turn with
  | call index =>
    rw [Console.perform] at room ⊢
    cases held : console.calls[index]? with
    | none => exact ⟨queue, watches, (List.append_nil queue).symm⟩
    | some call =>
      rw [held] at room
      cases call with
      | waiting switch =>
        exact ⟨queue, ⟨watches.sound, watches.serves⟩, (List.append_nil queue).symm⟩
      | announcing event => exact ⟨_, watches.announce (room nofun) event _, rfl⟩
      | returned outcome => exact ⟨queue, watches, (List.append_nil queue).symm⟩
  | receive other =>
    obtain ⟨later, kept, same⟩ := watches.receive other
    exact ⟨later, kept, same.trans (List.append_nil queue).symm⟩
  | pass time clock => exact ⟨queue, ⟨watches.sound, watches.serves⟩, (List.append_nil queue).symm⟩

end Watches

end Console

end ServerMonitor
