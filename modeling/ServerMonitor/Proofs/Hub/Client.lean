/-
This file follows one client through a run. A client is a machine by itself:
what a request does to it depends on no other client. While its receiver is
alive, what it takes, followed by what waits for it, is what was put into its
outbox; and that is all it wanted, unless it was evicted, and then it is all but
the event on which it was evicted, because a removed client wants nothing.
-/

import ServerMonitor.Proofs.Hub.Request

namespace ServerMonitor.Client

open Registry (Request)

/-! ### One request -/

/-- What a client takes from its outbox. -/
def taken (client : Client) : Request → List Event
  | .receive id => if client.id = id then client.outbox.take 1 else []
  | _ => []

/-- What is put into the outbox of a client. -/
def admitted (capacity : Nat) (client : Client) : Request → List Event
  | .fanOut event => if client.reach capacity event.name = .reached then [event] else []
  | _ => []

/-- What a client wants: the events fanned out while it is registered, if its filter accepts
their names. -/
def wants (client : Client) : Request → List Event
  | .fanOut event =>
    if client.isRegistered && client.filter.accepts event.name then [event] else []
  | _ => []

/-- A client by itself answers with what it takes. -/
def perform (capacity : Nat) : Machine Client Request (List Event)
  | client, request => (client.after capacity request, client.taken request)

/-- The filter that a client with this identity has after a request. -/
def filterAfter (id : Nat) (filter : Filter) : Request → Filter
  | .setFilter other new => if id = other then new else filter
  | .control other text => if id = other then filter.control text else filter
  | _ => filter

theorem after_filter (client : Client) (capacity : Nat) (request : Request) :
    (client.after capacity request).filter = filterAfter client.id client.filter request := by
  cases request with
  | register => rfl
  | fanOut event => exact client.offered_filter capacity event
  | shutdown => exact client.removed_filter .cleared
  | unregister id => rw [after]; split <;> simp [filterAfter]
  | setFilter id filter => rw [after, filterAfter]; split <;> rfl
  | control id text => rw [after, filterAfter]; split <;> rfl
  | receive id => rw [after]; split <;> rfl
  | dropReceiver id => rw [after]; split <;> rfl

theorem listening_of_listening_after {client : Client} {capacity : Nat} {request : Request}
    (listening : (client.after capacity request).listening = true) :
    client.listening = true := by
  cases request with
  | register => exact listening
  | fanOut event => exact (client.offered_listening capacity event).symm.trans listening
  | shutdown => exact (client.removed_listening .cleared).symm.trans listening
  | unregister id => rw [after] at listening; split at listening <;> simpa using listening
  | setFilter id filter => rw [after] at listening; split at listening <;> exact listening
  | control id text => rw [after] at listening; split at listening <;> exact listening
  | receive id => rw [after] at listening; split at listening <;> exact listening
  | dropReceiver id =>
    rw [after] at listening
    split at listening
    · cases listening
    · exact listening

/-- A request moves events from what is admitted through the outbox to what is taken. -/
theorem taken_append_outbox_after {client : Client} {capacity : Nat} {request : Request}
    (listening : (client.after capacity request).listening = true) :
    client.taken request ++ (client.after capacity request).outbox =
      client.outbox ++ client.admitted capacity request := by
  cases request with
  | register => exact (List.append_nil _).symm
  | fanOut event =>
    rw [after, admitted, offered]
    cases client.reach capacity event.name with
    | skipped => exact (List.append_nil _).symm
    | reached => rfl
    | slow => exact (List.append_nil _).symm
  | shutdown => simp [taken, after, admitted]
  | unregister id => rw [after]; split <;> simp [taken, admitted]
  | setFilter id filter => rw [after]; split <;> exact (List.append_nil _).symm
  | control id text => rw [after]; split <;> exact (List.append_nil _).symm
  | receive id =>
    rw [after, taken]
    split
    · cases client.outbox <;> simp [admitted]
    · exact (List.append_nil _).symm
  | dropReceiver id =>
    rw [after] at listening ⊢
    split at listening
    · cases listening
    · rw [if_neg ‹_›]
      exact (List.append_nil _).symm

/-- Only a client whose receiver is there is reached. -/
theorem listening_of_reach_eq_reached {client : Client} {capacity : Nat} {name : String}
    (reached : client.reach capacity name = .reached) : client.listening = true := by
  cases listening : client.listening with
  | true => rfl
  | false =>
    unfold reach at reached
    rw [listening] at reached
    split at reached <;> cases reached

/-- What waits for a client is dropped with its receiver, and nothing is put there later. -/
theorem outbox_after_of_not_listening {client : Client} {capacity : Nat} {request : Request}
    (empty : client.listening = false → client.outbox = [])
    (silent : (client.after capacity request).listening = false) :
    (client.after capacity request).outbox = [] := by
  cases request with
  | register => exact empty silent
  | fanOut event =>
    have silentBefore := (client.offered_listening capacity event).symm.trans silent
    rw [after, offered]
    cases reach : client.reach capacity event.name with
    | skipped => exact empty silentBefore
    | reached => cases silentBefore.symm.trans (listening_of_reach_eq_reached reach)
    | slow => exact empty silentBefore
  | shutdown =>
    exact (client.removed_outbox .cleared).trans
      (empty ((client.removed_listening .cleared).symm.trans silent))
  | unregister id =>
    rw [after] at silent ⊢
    split at silent <;> simp_all
  | setFilter id filter => rw [after] at silent ⊢; split at silent <;> simp_all
  | control id text => rw [after] at silent ⊢; split at silent <;> simp_all
  | receive id => rw [after] at silent ⊢; split at silent <;> simp_all
  | dropReceiver id => rw [after] at silent ⊢; split at silent <;> simp_all

/-! ### Removal -/

/-- Removal is for good. -/
theorem standing_after_of_not_registered {client : Client} (capacity : Nat) (request : Request)
    (gone : client.isRegistered = false) :
    (client.after capacity request).standing = client.standing := by
  have removed (standing : Standing) : client.removed standing = client := by
    rw [Client.removed, gone]
    rfl
  cases request with
  | register => rfl
  | fanOut event => rw [after, offered, reach, gone]; rfl
  | shutdown => rw [after, removed]
  | unregister id => rw [after, removed]; split <;> rfl
  | setFilter id filter => rw [after]; split <;> rfl
  | control id text => rw [after]; split <;> rfl
  | receive id => rw [after]; split <;> rfl
  | dropReceiver id => rw [after]; split <;> rfl

/-- A removed client wants nothing, and nothing is put into its outbox. -/
theorem wants_of_not_registered {client : Client} (capacity : Nat) (request : Request)
    (gone : client.isRegistered = false) :
    client.wants request = [] ∧ client.admitted capacity request = [] := by
  cases request with
  | fanOut event => rw [wants, admitted, reach, gone]; exact ⟨rfl, rfl⟩
  | _ => exact ⟨rfl, rfl⟩

/-- What a client wants is put into its outbox, unless the client is slow. -/
theorem wants_fanOut (client : Client) (capacity : Nat) (event : Event) :
    client.wants (.fanOut event) = client.admitted capacity (.fanOut event) ++
      if client.reach capacity event.name = .slow then [event] else [] := by
  rw [wants, admitted, reach]
  cases client.isRegistered <;> cases client.filter.accepts event.name <;>
    cases client.listening && client.outbox.length < capacity <;> rfl

/-- Only a fan-out that finds a client slow evicts it. -/
theorem standing_after_eq_evicted_iff {client : Client} (capacity : Nat) (request : Request)
    (present : client.standing ≠ .evicted) :
    (client.after capacity request).standing = .evicted ↔
      ∃ event, request = .fanOut event ∧ client.reach capacity event.name = .slow := by
  have removed (standing : Standing) (other : standing ≠ .evicted) :
      (client.removed standing).standing ≠ .evicted := by
    unfold Client.removed
    split
    · exact other
    · exact present
  constructor
  · intro evicted
    cases request with
    | fanOut event =>
      refine ⟨event, rfl, ?_⟩
      rw [after, offered] at evicted
      cases reach : client.reach capacity event.name with
      | slow => rfl
      | skipped => rw [reach] at evicted; exact absurd evicted present
      | reached => rw [reach] at evicted; exact absurd evicted present
    | register => exact absurd evicted present
    | shutdown => exact absurd evicted (removed .cleared (by decide))
    | unregister id =>
      rw [after] at evicted
      split at evicted
      · exact absurd evicted (removed .left (by decide))
      · exact absurd evicted present
    | setFilter id filter =>
      rw [after] at evicted; split at evicted <;> exact absurd evicted present
    | control id text =>
      rw [after] at evicted; split at evicted <;> exact absurd evicted present
    | receive id => rw [after] at evicted; split at evicted <;> exact absurd evicted present
    | dropReceiver id =>
      rw [after] at evicted; split at evicted <;> exact absurd evicted present
  · rintro ⟨event, rfl, slow⟩
    rw [after, offered, slow]

theorem not_registered_of_evicted {client : Client} (evicted : client.standing = .evicted) :
    client.isRegistered = false := by
  rw [isRegistered, evicted]
  rfl

theorem standing_ne_evicted_of_registered {client : Client}
    (registered : client.isRegistered = true) : client.standing ≠ .evicted := by
  intro evicted
  rw [not_registered_of_evicted evicted] at registered
  cases registered

/-- Whether a request asks for the removal of the client with this identity. -/
def removes (id : Nat) : Request → Bool
  | .unregister other => id = other
  | .shutdown => true
  | _ => false

/-- A registered client is removed by a request that asks for it or evicted, and not otherwise. -/
theorem isRegistered_after_iff (client : Client) (capacity : Nat) (request : Request) :
    (client.after capacity request).isRegistered = true ↔
      client.isRegistered = true ∧ removes client.id request = false ∧
        (client.after capacity request).standing ≠ .evicted := by
  cases registered : client.isRegistered with
  | false =>
    rw [isRegistered, standing_after_of_not_registered capacity request registered, ← isRegistered,
      registered]
    simp
  | true =>
    have standing : client.standing = .registered := of_decide_eq_true registered
    cases request with
    | register => simp [after, isRegistered, removes, standing]
    | fanOut event =>
      rw [after, offered]
      cases client.reach capacity event.name <;> simp [isRegistered, removes, standing]
    | shutdown => simp [after, Client.removed, isRegistered, removes, standing]
    | unregister id =>
      rw [after]
      by_cases own : client.id = id
      · simp [own, Client.removed, isRegistered, removes, standing]
      · simp [own, isRegistered, removes, standing]
    | setFilter id filter => rw [after]; split <;> simp [isRegistered, removes, standing]
    | control id text => rw [after]; split <;> simp [isRegistered, removes, standing]
    | receive id => rw [after]; split <;> simp [isRegistered, removes, standing]
    | dropReceiver id => rw [after]; split <;> simp [isRegistered, removes, standing]

/-- A client that is not evicted by a request gets all it wants. -/
theorem wants_eq_admitted {client : Client} {capacity : Nat} {request : Request}
    (present : (client.after capacity request).standing ≠ .evicted) :
    client.wants request = client.admitted capacity request := by
  cases request with
  | fanOut event =>
    have notSlow : client.reach capacity event.name ≠ .slow := by
      intro slow
      rw [after, offered, slow] at present
      exact present rfl
    rw [wants_fanOut client capacity, if_neg notSlow, List.append_nil]
  | _ => rfl

/-! ### Runs -/

variable {capacity : Nat} {client : Client}

theorem run_id (requests : List Request) :
    (Machine.run (perform capacity) client requests).id = client.id :=
  Machine.run_invariant (perform capacity) (fun other => other.id = client.id)
    (fun other request same => (other.after_id capacity request).trans same) rfl requests

theorem run_filter (requests : List Request) :
    (Machine.run (perform capacity) client requests).filter =
      requests.foldl (filterAfter client.id) client.filter := by
  induction requests using List.reverseRecOn with
  | nil => rfl
  | append_singleton past request inductionHypothesis =>
    rw [Machine.run_concat, perform, after_filter, run_id, inductionHypothesis,
      List.foldl_concat]

/-- Once registered, a client stays so until it is evicted or its removal is asked for. -/
theorem isRegistered_run_iff (registered : client.isRegistered = true) (requests : List Request) :
    (Machine.run (perform capacity) client requests).isRegistered = true ↔
      (Machine.run (perform capacity) client requests).standing ≠ .evicted ∧
        ∀ request ∈ requests, removes client.id request = false := by
  induction requests using List.reverseRecOn with
  | nil => simp [Machine.run, registered, standing_ne_evicted_of_registered registered]
  | append_singleton past request inductionHypothesis =>
    rw [Machine.run_concat, perform, isRegistered_after_iff, run_id, inductionHypothesis]
    constructor
    · rintro ⟨⟨-, kept⟩, keeps, present⟩
      refine ⟨present, fun other member => ?_⟩
      rcases List.mem_append.mp member with earlier | last
      · exact kept other earlier
      · rwa [List.mem_singleton.mp last]
    · rintro ⟨present, kept⟩
      refine ⟨⟨fun evicted => ?_, fun other member => kept other (List.mem_append_left _ member)⟩,
        kept request (List.mem_append_right _ (List.mem_singleton_self _)), present⟩
      refine present ((standing_after_of_not_registered capacity request ?_).trans evicted)
      exact not_registered_of_evicted evicted

/-- A removed client stays as it is: it wants nothing, and nothing is put into its outbox. -/
theorem run_of_not_registered (gone : client.isRegistered = false) (requests : List Request) :
    (Machine.run (perform capacity) client requests).standing = client.standing ∧
      Machine.log (perform capacity) wants client requests = [] ∧
      Machine.log (perform capacity) (admitted capacity) client requests = [] := by
  induction requests generalizing client with
  | nil => exact ⟨rfl, rfl, rfl⟩
  | cons request rest inductionHypothesis =>
    have standing := standing_after_of_not_registered capacity request gone
    obtain ⟨noWish, nothing⟩ := wants_of_not_registered capacity request gone
    have goneAfter : (client.after capacity request).isRegistered = false := by
      rw [isRegistered, standing]
      exact gone
    obtain ⟨standingAfter, noWishes, nothingAfter⟩ := inductionHypothesis goneAfter
    refine ⟨standingAfter.trans standing, ?_, ?_⟩
    · rw [Machine.log, noWish]
      exact noWishes
    · rw [Machine.log, nothing]
      exact nothingAfter

/-- What a client takes, followed by what waits for it, is what was put into its outbox. -/
theorem taken_append_outbox (requests : List Request)
    (listening : (Machine.run (perform capacity) client requests).listening = true) :
    Machine.log (perform capacity) taken client requests ++
        (Machine.run (perform capacity) client requests).outbox =
      client.outbox ++ Machine.log (perform capacity) (admitted capacity) client requests := by
  induction requests using List.reverseRecOn with
  | nil => exact (List.append_nil _).symm
  | append_singleton past request inductionHypothesis =>
    rw [Machine.run_concat] at listening ⊢
    rw [Machine.log_concat, Machine.log_concat, List.append_assoc, perform,
      taken_append_outbox_after listening, ← List.append_assoc,
      inductionHypothesis (listening_of_listening_after listening), List.append_assoc]

theorem outbox_of_not_listening (empty : client.listening = false → client.outbox = [])
    (requests : List Request)
    (silent : (Machine.run (perform capacity) client requests).listening = false) :
    (Machine.run (perform capacity) client requests).outbox = [] :=
  Machine.run_invariant (perform capacity)
    (fun other => other.listening = false → other.outbox = [])
    (fun _ _ => outbox_after_of_not_listening) empty requests silent

/-- What a client takes was put into its outbox, without a gap and from the first event on, even
if its receiver is dropped on the way. -/
theorem taken_isPrefix (empty : client.listening = false → client.outbox = [])
    (requests : List Request) :
    Machine.log (perform capacity) taken client requests <+:
      client.outbox ++ Machine.log (perform capacity) (admitted capacity) client requests := by
  induction requests using List.reverseRecOn with
  | nil => exact List.nil_prefix
  | append_singleton past request inductionHypothesis =>
    rw [Machine.log_concat, Machine.log_concat, ← List.append_assoc]
    refine List.IsPrefix.trans ?_ (List.prefix_append _ _)
    have fromOutbox : (Machine.run (perform capacity) client past).taken request <+:
        (Machine.run (perform capacity) client past).outbox := by
      cases request with
      | receive id =>
        rw [taken]
        split
        · exact List.take_prefix 1 _
        · exact List.nil_prefix
      | _ => exact List.nil_prefix
    cases listening : (Machine.run (perform capacity) client past).listening with
    | true =>
      rw [← taken_append_outbox past listening]
      exact (List.prefix_append_right_inj _).mpr fromOutbox
    | false =>
      rw [outbox_of_not_listening empty past listening] at fromOutbox
      rw [List.prefix_nil.mp fromOutbox, List.append_nil]
      exact inductionHypothesis

/-- A client that was not evicted got all it wanted. -/
theorem wanted_of_not_evicted (requests : List Request)
    (present : (Machine.run (perform capacity) client requests).standing ≠ .evicted) :
    Machine.log (perform capacity) wants client requests =
      Machine.log (perform capacity) (admitted capacity) client requests := by
  induction requests using List.reverseRecOn with
  | nil => rfl
  | append_singleton past request inductionHypothesis =>
    rw [Machine.run_concat] at present
    have presentBefore : (Machine.run (perform capacity) client past).standing ≠ .evicted := by
      intro evicted
      refine present ((standing_after_of_not_registered capacity request ?_).trans evicted)
      exact not_registered_of_evicted evicted
    rw [Machine.log_concat, Machine.log_concat, inductionHypothesis presentBefore,
      wants_eq_admitted present]

/-- A client that was evicted was found slow by a fan-out, and misses that one event. -/
theorem wanted_of_evicted (present : client.standing ≠ .evicted) (requests : List Request)
    (evicted : (Machine.run (perform capacity) client requests).standing = .evicted) :
    ∃ past event future, requests = past ++ .fanOut event :: future ∧
      (Machine.run (perform capacity) client past).reach capacity event.name = .slow ∧
      Machine.log (perform capacity) wants client requests =
        Machine.log (perform capacity) (admitted capacity) client requests ++ [event] ∧
      Machine.log (perform capacity) (admitted capacity) client requests =
        Machine.log (perform capacity) (admitted capacity) client past := by
  induction requests generalizing client with
  | nil => exact absurd evicted present
  | cons request rest inductionHypothesis =>
    by_cases now : (client.after capacity request).standing = .evicted
    · obtain ⟨event, rfl, slow⟩ := (standing_after_eq_evicted_iff capacity request present).mp now
      have frozen : _ ∧ Machine.log (perform capacity) wants _ rest = [] ∧
          Machine.log (perform capacity) (admitted capacity) _ rest = [] :=
        run_of_not_registered (not_registered_of_evicted now) rest
      have nothing : client.admitted capacity (.fanOut event) = [] := by
        rw [admitted, slow]
        rfl
      refine ⟨[], event, rest, rfl, slow, ?_, ?_⟩
      · rw [Machine.log, Machine.log, perform, frozen.2.1, frozen.2.2,
          wants_fanOut client capacity, nothing, if_pos slow]
        rfl
      · rw [Machine.log, Machine.log, perform, frozen.2.2, nothing]
        rfl
    · obtain ⟨past, event, future, rfl, slow, wanted, same⟩ := inductionHypothesis now evicted
      refine ⟨request :: past, event, future, rfl, slow, ?_, ?_⟩
      · rw [Machine.log, Machine.log, List.append_assoc, wants_eq_admitted now]
        exact congrArg _ wanted
      · rw [Machine.log, Machine.log]
        exact congrArg _ same

end ServerMonitor.Client
