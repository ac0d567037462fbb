/-
This file defines runs. A machine takes requests one after the other, answers
each and goes on in another state; the bus, the registry of clients and the
roster of collectors are machines. A run keeps what every single request keeps,
and two machines whose states stay related through every request give the same
answers in every run. What happens during a run is told by a log, to which each
request adds entries that depend on the state it meets.
-/

import Mathlib.Data.List.Induction

namespace ServerMonitor

/-- A machine answers a request and goes on in another state. -/
abbrev Machine (State Request Reply : Type) := State → Request → State × Reply

namespace Machine

variable {State Request Reply Entry : Type} (machine : Machine State Request Reply)

/-- The state after a list of requests. -/
def run (state : State) (requests : List Request) : State :=
  requests.foldl (fun state request => (machine state request).1) state

/-- The answers to a list of requests. -/
def replies (state : State) : List Request → List Reply
  | [] => []
  | request :: rest => (machine state request).2 :: replies (machine state request).1 rest

/-- The entries that the requests of a run add to a log. -/
def log (note : State → Request → List Entry) (state : State) : List Request → List Entry
  | [] => []
  | request :: rest => note state request ++ log note (machine state request).1 rest

theorem run_append (state : State) (first second : List Request) :
    machine.run state (first ++ second) = machine.run (machine.run state first) second :=
  List.foldl_append

theorem run_concat (state : State) (past : List Request) (request : Request) :
    machine.run state (past ++ [request]) = (machine (machine.run state past) request).1 :=
  machine.run_append state past [request]

theorem log_append (note : State → Request → List Entry) (state : State)
    (first second : List Request) :
    machine.log note state (first ++ second) =
      machine.log note state first ++ machine.log note (machine.run state first) second := by
  induction first generalizing state with
  | nil => rfl
  | cons request rest inductionHypothesis =>
    rw [List.cons_append, log, log, inductionHypothesis, List.append_assoc]
    rfl

theorem log_concat (note : State → Request → List Entry) (state : State)
    (past : List Request) (request : Request) :
    machine.log note state (past ++ [request]) =
      machine.log note state past ++ note (machine.run state past) request := by
  rw [log_append, log, log, List.append_nil]

/-- A log is a part of another, in the same order, if each request adds to it a part of what it
adds to the other. -/
theorem log_sublist_log {note told : State → Request → List Entry}
    (part : ∀ state request, (note state request).Sublist (told state request)) (state : State)
    (requests : List Request) :
    (machine.log note state requests).Sublist (machine.log told state requests) := by
  induction requests generalizing state with
  | nil => exact List.Sublist.slnil
  | cons request rest inductionHypothesis =>
    exact (part state request).append (inductionHypothesis _)

/-- Requests that add the same in every state add the same in every run. -/
theorem log_const (told : Request → List Entry) (state : State) (requests : List Request) :
    machine.log (fun _ => told) state requests = requests.flatMap told := by
  induction requests generalizing state with
  | nil => rfl
  | cons request rest inductionHypothesis =>
    rw [log, List.flatMap_cons, inductionHypothesis]

theorem log_sublist_flatMap {note : State → Request → List Entry} {told : Request → List Entry}
    (part : ∀ state request, (note state request).Sublist (told request)) (state : State)
    (requests : List Request) :
    (machine.log note state requests).Sublist (requests.flatMap told) := by
  rw [← machine.log_const told state]
  exact machine.log_sublist_log part state requests

/-- What holds at the start and is kept by every request of a run holds after it. -/
theorem run_invariant_of_forall (Invariant : State → Prop) {allowed : Request → Prop}
    (kept : ∀ state request, allowed request → Invariant state →
      Invariant (machine state request).1)
    {state : State} (start : Invariant state) (requests : List Request)
    (each : ∀ request ∈ requests, allowed request) : Invariant (machine.run state requests) := by
  induction requests generalizing state with
  | nil => exact start
  | cons request rest inductionHypothesis =>
    refine inductionHypothesis (kept state request (each request List.mem_cons_self) start) ?_
    exact fun other member => each other (List.mem_cons_of_mem _ member)

/-- What holds at the start and is kept by every request holds after every run. -/
theorem run_invariant (Invariant : State → Prop)
    (kept : ∀ state request, Invariant state → Invariant (machine state request).1)
    {state : State} (start : Invariant state) (requests : List Request) :
    Invariant (machine.run state requests) :=
  machine.run_invariant_of_forall Invariant (fun state request (_ : True) => kept state request)
    start requests fun _ _ => trivial

/-- Machines whose states stay related through every request, and add the same to their logs,
have the same logs. -/
theorem log_eq_of_related {Other OtherReply : Type} (other : Machine Other Request OtherReply)
    {note : State → Request → List Entry} {otherNote : Other → Request → List Entry}
    (Related : State → Other → Prop)
    (step : ∀ state otherState request, Related state otherState →
      note state request = otherNote otherState request ∧
        Related (machine state request).1 (other otherState request).1)
    {state : State} {otherState : Other} (start : Related state otherState)
    (requests : List Request) :
    machine.log note state requests = other.log otherNote otherState requests := by
  induction requests generalizing state otherState with
  | nil => rfl
  | cons request rest inductionHypothesis =>
    obtain ⟨sameNote, related⟩ := step state otherState request start
    rw [log, log, sameNote, inductionHypothesis related]

/-- Machines whose states stay related through every request give the same answers. -/
theorem replies_eq_of_related {Other : Type} (other : Machine Other Request Reply)
    {Related : State → Other → Prop}
    (step : ∀ state otherState request, Related state otherState →
      (machine state request).2 = (other otherState request).2 ∧
        Related (machine state request).1 (other otherState request).1)
    {state : State} {otherState : Other} (start : Related state otherState)
    (requests : List Request) :
    machine.replies state requests = other.replies otherState requests ∧
      Related (machine.run state requests) (other.run otherState requests) := by
  induction requests generalizing state otherState with
  | nil => exact ⟨rfl, start⟩
  | cons request rest inductionHypothesis =>
    obtain ⟨sameReply, related⟩ := step state otherState request start
    obtain ⟨sameReplies, relatedAfter⟩ := inductionHypothesis related
    refine ⟨?_, relatedAfter⟩
    rw [replies, replies, sameReply, sameReplies]

/-- Whatever stands in a log was added to it by a request. -/
theorem exists_of_mem_log {note : State → Request → List Entry} {state : State}
    {requests : List Request} {entry : Entry} (member : entry ∈ machine.log note state requests) :
    ∃ past request future, requests = past ++ request :: future ∧
      entry ∈ note (machine.run state past) request := by
  induction requests generalizing state with
  | nil => cases member
  | cons request rest inductionHypothesis =>
    rcases List.mem_append.mp member with now | later
    · exact ⟨[], request, rest, rfl, now⟩
    · obtain ⟨past, added, future, rfl, noted⟩ := inductionHypothesis later
      exact ⟨request :: past, added, future, rfl, noted⟩

theorem log_eq_nil {note : State → Request → List Entry}
    (nothing : ∀ state request, note state request = []) (state : State)
    (requests : List Request) : machine.log note state requests = [] := by
  induction requests generalizing state with
  | nil => rfl
  | cons request rest inductionHypothesis =>
    rw [log, nothing, inductionHypothesis]
    rfl

/-- What is made of each entry of a log can be made of it when it is added. -/
theorem flatMap_log {Image : Type} (note : State → Request → List Entry)
    (image : Entry → List Image) (state : State) (requests : List Request) :
    (machine.log note state requests).flatMap image =
      machine.log (fun state request => (note state request).flatMap image) state requests := by
  induction requests generalizing state with
  | nil => rfl
  | cons request rest inductionHypothesis =>
    rw [log, log, List.flatMap_append, inductionHypothesis]

theorem map_log {Image : Type} (note : State → Request → List Entry) (image : Entry → Image)
    (state : State) (requests : List Request) :
    (machine.log note state requests).map image =
      machine.log (fun state request => (note state request).map image) state requests := by
  simp only [List.map_eq_flatMap]
  exact machine.flatMap_log note _ state requests

/-! ### What is kept in between -/

section Content

variable (leaving : State → Request → List Entry) (content : State → List Entry)
  (entering : State → Request → List Entry) (Invariant : State → Prop)
  (kept : ∀ state request, Invariant state → Invariant (machine state request).1)

include kept

/-- If each request lets out, and leaves behind, a part of what was there and what it lets in, so
does a run. -/
theorem log_append_sublist
    (step : ∀ state request, Invariant state →
      (leaving state request ++ content (machine state request).1).Sublist
        (content state ++ entering state request))
    {state : State} (start : Invariant state) (requests : List Request) :
    (machine.log leaving state requests ++ content (machine.run state requests)).Sublist
      (content state ++ machine.log entering state requests) := by
  induction requests using List.reverseRecOn with
  | nil => rw [log, log, List.append_nil]; exact List.Sublist.refl _
  | append_singleton past request inductionHypothesis =>
    rw [log_concat, log_concat, run_concat, List.append_assoc, ← List.append_assoc (content state)]
    have invariant := machine.run_invariant Invariant kept start past
    refine ((step _ request invariant).append_left _).trans ?_
    rw [← List.append_assoc]
    exact inductionHypothesis.append_right _

/-- If no request loses anything as long as the machine stays calm, no run does that ends calmly.
Once calm is lost it never returns. -/
theorem log_append_eq (Calm : State → Prop)
    (before : ∀ state request, Invariant state → Calm (machine state request).1 → Calm state)
    (step : ∀ state request, Invariant state → Calm (machine state request).1 →
      leaving state request ++ content (machine state request).1 =
        content state ++ entering state request)
    {state : State} (start : Invariant state) (requests : List Request)
    (calm : Calm (machine.run state requests)) :
    machine.log leaving state requests ++ content (machine.run state requests) =
      content state ++ machine.log entering state requests := by
  induction requests using List.reverseRecOn with
  | nil => exact (List.append_nil _).symm
  | append_singleton past request inductionHypothesis =>
    have invariant := machine.run_invariant Invariant kept start past
    rw [run_concat] at calm ⊢
    rw [log_concat, log_concat, List.append_assoc, step _ request invariant calm,
      ← List.append_assoc, inductionHypothesis (before _ request invariant calm),
      List.append_assoc]

end Content

/-! ### A machine within another -/

section Within

variable {Inner InnerRequest InnerReply : Type} (inner : Machine Inner InnerRequest InnerReply)
  (view : State → Inner) (asked : State → Request → Option InnerRequest)
  (step : ∀ state request, view (machine state request).1 =
    (asked state request).elim (view state) fun inquiry => (inner (view state) inquiry).1)

include step

/-- A part of the state that is asked at most once by each request goes through a run of its own. -/
theorem run_within (state : State) (requests : List Request) :
    view (machine.run state requests) =
      inner.run (view state) (machine.log (fun state request => (asked state request).toList)
        state requests) := by
  induction requests generalizing state with
  | nil => rfl
  | cons request rest inductionHypothesis =>
    rw [log, run_append]
    refine (inductionHypothesis (machine state request).1).trans ?_
    rw [step]
    cases asked state request <;> rfl

theorem log_within (note : Inner → InnerRequest → List Entry) (state : State)
    (requests : List Request) :
    machine.log (fun state request => (asked state request).elim [] (note (view state))) state
        requests =
      inner.log note (view state) (machine.log (fun state request => (asked state request).toList)
        state requests) := by
  induction requests generalizing state with
  | nil => rfl
  | cons request rest inductionHypothesis =>
    rw [log, log, log_append, inductionHypothesis, step]
    cases asked state request with
    | none => rfl
    | some inquiry =>
      show _ = (note (view state) inquiry ++ []) ++ _
      rw [List.append_nil]
      rfl

end Within

/-! ### Requests that do not matter -/

section Aside

variable {View : Type} (view : State → View) (matters : Request → Bool)
  (aside : ∀ state request, matters request = false → view (machine state request).1 = view state)
  (alike : ∀ state other request, matters request = true → view state = view other →
    view (machine state request).1 = view (machine other request).1)

include aside alike

/-- A view of the state that some requests leave alone, and that the others change by what was seen
before, goes through a run as if there were only the others. -/
theorem view_run_filter {state other : State} (same : view state = view other)
    (requests : List Request) :
    view (machine.run state requests) = view (machine.run other (requests.filter matters)) := by
  induction requests generalizing state other with
  | nil => exact same
  | cons request rest inductionHypothesis =>
    rw [List.filter_cons]
    cases matter : matters request with
    | true => exact inductionHypothesis (alike state other request matter same)
    | false => exact inductionHypothesis ((aside state request matter).trans same)

/-- What such requests add to a log, if it depends on the view, can be told from them alone. -/
theorem log_filter (note : State → Request → List Entry)
    (silent : ∀ state request, matters request = false → note state request = [])
    (told : ∀ state other request, matters request = true → view state = view other →
      note state request = note other request)
    {state other : State} (same : view state = view other) (requests : List Request) :
    machine.log note state requests = machine.log note other (requests.filter matters) := by
  induction requests generalizing state other with
  | nil => rfl
  | cons request rest inductionHypothesis =>
    rw [List.filter_cons, log]
    cases matter : matters request with
    | true =>
      rw [inductionHypothesis (alike state other request matter same),
        told state other request matter same]
      rfl
    | false =>
      rw [inductionHypothesis ((aside state request matter).trans same),
        silent state request matter]
      rfl

variable {requests others : List Request}
  (same : requests.filter matters = others.filter matters)

include same

/-- Runs of which the same matters look the same in the end. -/
theorem view_run_eq (state : State) :
    view (machine.run state requests) = view (machine.run state others) := by
  rw [machine.view_run_filter view matters aside alike rfl requests, same,
    ← machine.view_run_filter view matters aside alike rfl others]

/-- Runs of which the same matters add the same to a log that depends on what is seen. -/
theorem log_eq (note : State → Request → List Entry)
    (silent : ∀ state request, matters request = false → note state request = [])
    (told : ∀ state other request, matters request = true → view state = view other →
      note state request = note other request) (state : State) :
    machine.log note state requests = machine.log note state others := by
  rw [machine.log_filter view matters aside alike note silent told rfl requests, same,
    ← machine.log_filter view matters aside alike note silent told rfl others]

end Aside

end Machine

end ServerMonitor
