/-
This file states how requests to control a collector are answered. A request that
reaches its handler is one operation on the agent. It is refused because nobody
has the name, or because a rule forbids it, and then the answer says why; otherwise
the answer reports the collector as it is afterwards. The report cannot fail, since
a name that was once registered stays so. Whatever is not answered with success
leaves the whole agent as it was.
-/

import ServerMonitor.Api.Service
import ServerMonitor.Proofs.Agent.Operation

namespace ServerMonitor

open Api Collector

/-! ### Names -/

namespace Roster

theorem mem_names_of_status {roster : Roster} {name : String} {status : CollectorStatus}
    (told : roster.status name = .ok status) : name ∈ roster.names := by
  rw [mem_names_iff]
  unfold Roster.status at told
  split at told
  · exact ⟨_, ‹_›⟩
  · cases told

theorem exists_status {roster : Roster} {name : String} (known : name ∈ roster.names) :
    ∃ status, roster.status name = .ok status := by
  obtain ⟨entry, found⟩ := mem_names_iff.mp known
  exact ⟨roster.statusOf entry, by rw [status, found]⟩

theorem mem_names_setEntry {roster : Roster} {name : String} (known : name ∈ roster.names)
    (entry : Entry) : name ∈ (roster.setEntry entry).names := by
  obtain ⟨held, found⟩ := mem_names_iff.mp known
  rw [mem_names_iff, entry?_setEntry]
  split
  · exact ⟨entry, rfl⟩
  · exact ⟨held, found⟩

theorem mem_names_of_entries {roster next : Roster} {name : String}
    (same : next.entries = roster.entries) (known : name ∈ roster.names) : name ∈ next.names := by
  rwa [names, same]

/-- No name is ever removed. -/
theorem persistent_mem_names (name : String) : Persistent fun roster => name ∈ roster.names where
  setEntry _ entry known := mem_names_setEntry known entry
  marks _ _ marks known := mem_names_of_entries marks.entries known
  start _ _ _ known := mem_names_setEntry (mem_names_of_entries rfl known) _
  added _ _ known := mem_names_of_entries rfl known
  moved _ _ _ _ moved known := mem_names_of_entries moved.entries known
  shutdown _ known := mem_names_of_entries rfl known

end Roster

/-! ### Requests -/

/-- The path names what a request can do to the collector of a name. -/
def Api.Request.Targets (request : Request) (name : String) (control : Control) : Prop :=
  ∃ encoded, Resource.ofSegments? request.segments = some (.control encoded control) ∧
    Text.percentDecoded? encoded = some name

/-- A request that reaches its handler, with the operation that it stands for and the words in
which its success is reported. -/
inductive Api.Request.Demands (request : Request) (name : String) : Agent.Operation → String → Prop
  | enable (method : request.method = "POST") (target : request.Targets name .enable) :
    request.Demands name (.enable name) "enabled"
  | disable (method : request.method = "POST") (target : request.Targets name .disable) :
    request.Demands name (.disable name) "disabled"
  | changeInterval (seconds : UInt64) (method : request.method = "PATCH")
    (target : request.Targets name .changeInterval) (declared : request.declaresJson = true)
    (body : IntervalRequest.schema.ofTextStart request.body = .ok ⟨seconds⟩) :
    request.Demands name (.changeInterval name seconds) s!"interval set to {seconds}s"

/-- The rules that forbid an operation on a registered collector, each with its refusal. -/
inductive Roster.Forbids (roster : Roster) (name : String) : Agent.Operation → Refusal → Prop
  | required (status : CollectorStatus) (told : roster.status name = .ok status)
    (required : status.required = true) : roster.Forbids name (.disable name) (.required name)
  | interval (seconds : UInt64) (known : name ∈ roster.names)
    (outside : ¬(5 ≤ seconds ∧ seconds ≤ 3600)) :
    roster.Forbids name (.changeInterval name seconds) (.interval seconds)

theorem Roster.Forbids.known {roster : Roster} {name : String} {operation : Agent.Operation}
    {refusal : Refusal} (forbids : roster.Forbids name operation refusal) :
    name ∈ roster.names := by
  cases forbids with
  | required status told required => exact mem_names_of_status told
  | interval seconds known outside => exact known

/-- What a rule forbids is reported as an invalid request. -/
theorem Roster.Forbids.status {roster : Roster} {name : String} {operation : Agent.Operation}
    {refusal : Refusal} (forbids : roster.Forbids name operation refusal) :
    (Fault.ofRefusal refusal).status = 400 := by
  cases forbids <;> rfl

namespace Agent

/-! ### Refusals -/

/-- An operation is refused if nobody has the name, or if a rule forbids it. -/
def Refuses (agent : Agent) (name : String) (operation : Operation) (refusal : Refusal) : Prop :=
  name ∉ agent.roster.names ∧ refusal = .unknown name ∨
    agent.roster.Forbids name operation refusal

theorem refuses_of_absent {agent : Agent} {name : String}
    (absent : agent.roster.entry? name = none) {operation : Operation} {refusal : Refusal} :
    agent.Refuses name operation refusal ↔ Refusal.unknown name = refusal := by
  have unknown : name ∉ agent.roster.names := fun known => by
    obtain ⟨entry, found⟩ := Roster.mem_names_iff.mp known
    cases absent.symm.trans found
  refine ⟨?_, fun same => .inl ⟨unknown, same.symm⟩⟩
  rintro (⟨-, same⟩ | forbids)
  · exact same.symm
  · exact absurd forbids.known unknown

theorem refuses_of_found {agent : Agent} {name : String} {entry : Entry}
    (found : agent.roster.entry? name = some entry) {operation : Operation} {refusal : Refusal} :
    agent.Refuses name operation refusal ↔ agent.roster.Forbids name operation refusal :=
  or_iff_right fun unknown => unknown.1 (Roster.mem_names_iff.mpr ⟨entry, found⟩)

/-- The status tells whether the name is unknown or a rule forbids the operation. -/
theorem Refuses.status {agent : Agent} {name : String} {operation : Operation} {refusal : Refusal}
    (refuses : agent.Refuses name operation refusal) :
    ((Fault.ofRefusal refusal).status = 404 ↔ name ∉ agent.roster.names) ∧
      ((Fault.ofRefusal refusal).status = 400 ↔
        ∃ refusal, agent.roster.Forbids name operation refusal) := by
  rcases refuses with ⟨unknown, rfl⟩ | forbids
  · exact ⟨iff_of_true rfl unknown, iff_of_false nofun fun ⟨_, other⟩ => unknown other.known⟩
  · rw [forbids.status]
    exact ⟨iff_of_false nofun (not_not_intro forbids.known), iff_of_true rfl ⟨refusal, forbids⟩⟩

theorem enable_eq_error_iff (agent : Agent) (name : String) (refusal : Refusal) :
    agent.enable name = .error refusal ↔ agent.Refuses name (.enable name) refusal := by
  rw [enable, Roster.enable]
  cases found : agent.roster.entry? name with
  | none =>
    rw [refuses_of_absent found]
    exact ⟨Except.error.inj, congrArg Except.error⟩
  | some entry =>
    rw [refuses_of_found found]
    refine ⟨fun refused => ?_, fun forbids => ?_⟩
    · dsimp only at refused
      split at refused <;> cases refused
    · cases forbids

theorem disable_eq_error_iff (agent : Agent) (name : String) (refusal : Refusal) :
    agent.disable name = .error refusal ↔ agent.Refuses name (.disable name) refusal := by
  rw [disable, Roster.disable]
  cases found : agent.roster.entry? name with
  | none =>
    rw [refuses_of_absent found]
    exact ⟨Except.error.inj, congrArg Except.error⟩
  | some entry =>
    have told : agent.roster.status name = .ok (agent.roster.statusOf entry) := by
      rw [Roster.status, found]
    rw [refuses_of_found found]
    dsimp only
    by_cases required : entry.required = true
    · rw [if_pos required]
      refine ⟨fun refused => ?_, fun forbids => ?_⟩
      · cases refused
        exact .required _ told required
      · cases forbids
        rfl
    · rw [if_neg required]
      refine ⟨fun refused => ?_, fun forbids => ?_⟩
      · split at refused <;> cases refused
      · cases forbids with
        | required status told' required' =>
          cases told.symm.trans told'
          exact absurd required' required

theorem changeInterval_eq_error_iff (agent : Agent) (name : String) (seconds : UInt64)
    (refusal : Refusal) :
    agent.changeInterval name seconds = .error refusal ↔
      agent.Refuses name (.changeInterval name seconds) refusal := by
  rw [changeInterval, Roster.changeInterval]
  cases found : agent.roster.entry? name with
  | none =>
    rw [refuses_of_absent found]
    exact ⟨Except.error.inj, congrArg Except.error⟩
  | some entry =>
    have known : name ∈ agent.roster.names := Roster.mem_names_iff.mpr ⟨entry, found⟩
    have within : isAllowedInterval seconds = true ↔ 5 ≤ seconds ∧ seconds ≤ 3600 := by
      rw [isAllowedInterval, Bool.and_eq_true, decide_eq_true_eq, decide_eq_true_eq]
      rfl
    rw [refuses_of_found found]
    dsimp only
    cases allowed : isAllowedInterval seconds with
    | false =>
      refine ⟨fun refused => ?_, fun forbids => ?_⟩
      · cases refused
        refine .interval seconds known fun inside => ?_
        cases allowed.symm.trans (within.mpr inside)
      · cases forbids
        rfl
    | true =>
      refine ⟨fun refused => ?_, fun forbids => ?_⟩
      · simp only [Bool.not_true, Bool.false_eq_true, if_false] at refused
        split at refused <;> cases refused
      · cases forbids with
        | interval _ _ outside => exact absurd (within.mp allowed) outside

/-- An operation on the collector of a name as a call: its result, and why it is refused. -/
structure Call (agent : Agent) (name : String) (operation : Operation)
    (result : Except Refusal Agent) : Prop where
  operates : agent.operate operation = agent.settle result
  refused_iff : ∀ refusal, result = .error refusal ↔ agent.Refuses name operation refusal

theorem call_enable (agent : Agent) (name : String) :
    agent.Call name (.enable name) (agent.enable name) :=
  ⟨rfl, agent.enable_eq_error_iff name⟩

theorem call_disable (agent : Agent) (name : String) :
    agent.Call name (.disable name) (agent.disable name) :=
  ⟨rfl, agent.disable_eq_error_iff name⟩

theorem call_changeInterval (agent : Agent) (name : String) (seconds : UInt64) :
    agent.Call name (.changeInterval name seconds) (agent.changeInterval name seconds) :=
  ⟨rfl, agent.changeInterval_eq_error_iff name seconds⟩

/-- Whoever was operated on can be asked for afterwards. -/
theorem Call.known {agent next : Agent} {name : String} {operation : Operation}
    (call : agent.Call name operation (.ok next)) : name ∈ next.roster.names := by
  have before : name ∈ agent.roster.names := by
    -- A call for an unknown name would have been refused.
    by_contra unknown
    cases (call.refused_iff (.unknown name)).mpr (.inl ⟨unknown, rfl⟩)
  rw [show next = (agent.operate operation).1 from (congrArg Prod.fst call.operates).symm,
    roster_operate]
  cases agent.inquiry? operation with
  | none => exact before
  | some inquiry => exact (Roster.persistent_mem_names name).perform inquiry before

/-! ### Answers -/

theorem report_of_status (agent : Agent) {name : String} {status : CollectorStatus}
    (told : agent.roster.status name = .ok status) (outcome : String) :
    agent.report name outcome = .ok ⟨true, s!"collector {name} {outcome}", status⟩ := by
  rw [report, told]

/-- An operation that succeeded is reported with the status of the collector right after. -/
theorem Call.reported {agent next : Agent} {name : String} {operation : Operation}
    (call : agent.Call name operation (.ok next)) (outcome : String) :
    ∃ status, next.roster.status name = .ok status ∧
      agent.answerControl name outcome (.ok next) =
        (next, .ofJson 200 (ControlReport.schema.toText
          ⟨true, s!"collector {name} {outcome}", status⟩)) := by
  obtain ⟨status, told⟩ := Roster.exists_status call.known
  refine ⟨status, told, ?_⟩
  rw [answerControl, next.report_of_status told]

theorem Call.unchanged {agent : Agent} {name outcome : String} {operation : Operation}
    {result : Except Refusal Agent} (call : agent.Call name operation result)
    (failed : (agent.answerControl name outcome result).2.status ≠ 200) :
    (agent.answerControl name outcome result).1 = agent := by
  cases result with
  | error refusal => rfl
  | ok next =>
    obtain ⟨status, -, answered⟩ := call.reported outcome
    rw [answered] at failed
    exact absurd rfl failed

/-- What a request is answered with, apart from what is said about other origins. -/
structure Answers (agent : Agent) (request : Request) (answered : Agent × Response) : Prop where
  after : (agent.respond request).1 = answered.1
  status : (agent.respond request).2.status = answered.2.status
  json : (agent.respond request).2.json = answered.2.json

theorem answers_control {agent : Agent} {request : Request} {encoded : String} {control : Control}
    (target : Resource.ofSegments? request.segments = some (.control encoded control))
    (method : request.method ∈ (Resource.control encoded control).access.methods) :
    agent.Answers request (agent.answerResource request (.control encoded control)) := by
  have plain : request.method ≠ "OPTIONS" ∧ request.method ≠ "HEAD" := by
    revert method
    cases control <;> intro method <;> rw [List.mem_singleton.mp method] <;> decide
  have answered : agent.answer request =
      agent.answerResource request (.control encoded control) := by
    rw [answer, target]
    dsimp only
    rw [List.contains_iff_mem.mpr method, if_neg plain.2]
    rfl
  constructor <;> rw [respond, if_neg plain.1, answered] <;> cases agent.crossOrigin <;> rfl

theorem answerInterval_of_body {agent : Agent} {request : Request} {seconds : UInt64}
    (declared : request.declaresJson = true)
    (body : IntervalRequest.schema.ofTextStart request.body = .ok ⟨seconds⟩) (name : String) :
    agent.answerInterval name request =
      agent.answerControl name s!"interval set to {seconds}s"
        (agent.changeInterval name seconds) := by
  rw [answerInterval, declared, body]
  rfl

/-- A body that is rejected never gets to the collectors. -/
theorem unchanged_of_answerInterval {agent : Agent} {name : String} {request : Request}
    (failed : (agent.answerInterval name request).2.status ≠ 200) :
    (agent.answerInterval name request).1 = agent := by
  cases declared : request.declaresJson with
  | false =>
    rw [answerInterval, declared]
    rfl
  | true =>
    cases body : IntervalRequest.schema.ofTextStart request.body with
    | error fault =>
      rw [answerInterval, declared, body]
      cases fault <;> rfl
    | ok read =>
      rw [answerInterval_of_body declared body] at failed ⊢
      exact (agent.call_changeInterval name read.interval).unchanged failed

/-- A request that is not answered with success leaves everything as it was. -/
theorem unchanged_of_failed {agent : Agent} {request : Request} {encoded : String}
    {control : Control}
    (target : Resource.ofSegments? request.segments = some (.control encoded control))
    (failed : (agent.respond request).2.status ≠ 200) : (agent.respond request).1 = agent := by
  by_cases method : request.method ∈ (Resource.control encoded control).access.methods
  · have answers : agent.Answers request _ := answers_control target method
    rw [answers.status] at failed
    rw [answers.after]
    rw [answerResource, answerNamed] at failed ⊢
    cases decoded : Text.percentDecoded? encoded with
    | none => rfl
    | some name =>
      rw [decoded] at failed
      cases control with
      | enable => exact (agent.call_enable name).unchanged failed
      | disable => exact (agent.call_disable name).unchanged failed
      | changeInterval => exact unchanged_of_answerInterval failed
  · have refused : agent.answer request = (agent, (Response.bare 405).withHeader "allow"
        (Resource.control encoded control).access.allow) := by
      rw [answer, target]
      dsimp only
      rw [Bool.eq_false_iff.mpr fun listed => method (List.contains_iff_mem.mp listed)]
      rfl
    rw [respond, refused]
    split
    · rfl
    · split <;> rfl

/-- A request that reaches its handler is one call, and its answer is the answer to that. -/
theorem exists_call_of_demands (agent : Agent) {request : Request} {name outcome : String}
    {operation : Operation} (demands : request.Demands name operation outcome) :
    ∃ result, agent.Call name operation result ∧
      agent.Answers request (agent.answerControl name outcome result) := by
  have answers {control : Control} (targets : request.Targets name control)
      (method : ∀ encoded, request.method ∈ (Resource.control encoded control).access.methods) :
      ∃ encoded, Text.percentDecoded? encoded = some name ∧
        agent.Answers request (agent.answerResource request (.control encoded control)) := by
    obtain ⟨encoded, target, decoded⟩ := targets
    exact ⟨encoded, decoded, answers_control target (method encoded)⟩
  cases demands with
  | enable method targets =>
    obtain ⟨encoded, decoded, answers⟩ := answers targets fun _ => List.mem_singleton.mpr method
    rw [answerResource, answerNamed, decoded] at answers
    exact ⟨_, agent.call_enable name, answers⟩
  | disable method targets =>
    obtain ⟨encoded, decoded, answers⟩ := answers targets fun _ => List.mem_singleton.mpr method
    rw [answerResource, answerNamed, decoded] at answers
    exact ⟨_, agent.call_disable name, answers⟩
  | changeInterval seconds method targets declared body =>
    obtain ⟨encoded, decoded, answers⟩ := answers targets fun _ => List.mem_singleton.mpr method
    rw [answerResource, answerNamed, decoded] at answers
    refine ⟨_, agent.call_changeInterval name seconds, ?_⟩
    rw [← answerInterval_of_body declared body]
    exact answers

/-- A request that reaches its handler is answered with 404 if nobody has the name, and otherwise
with 400 if a rule forbids the operation, both with the words of the refusal. Otherwise the
operation is carried out and the answer tells the status of the collector right after; this cannot
fail, whatever else is asked of the roster in between. A request about the control of a collector
that is not answered with success, be it that it never reached its handler, leaves the whole agent
as it was. -/
theorem control_refused_or_reported (agent : Agent) (request : Request) :
    let after := (agent.respond request).1
    let response := (agent.respond request).2
    (∀ name operation outcome, request.Demands name operation outcome →
      let answer := (agent.operate operation).2
      (response.status = 404 ↔ name ∉ agent.roster.names) ∧
      (response.status = 400 ↔ ∃ refusal, agent.roster.Forbids name operation refusal) ∧
      (∀ refusal, agent.Refuses name operation refusal → answer = .error refusal ∧
        response.json = some (Fault.bodyOf refusal.message).render) ∧
      ((∀ refusal, ¬agent.Refuses name operation refusal) →
        response.status = 200 ∧ answer = .ok () ∧ after = (agent.operate operation).1 ∧
        (∃ status, after.roster.status name = .ok status ∧
          response.json = some (ControlReport.schema.toText
            ⟨true, s!"collector {name} {outcome}", status⟩)) ∧
        ∀ between : List Roster.Request, ∃ report,
          Agent.report { after with
            roster := Machine.run Roster.perform after.roster between } name outcome =
              .ok report)) ∧
    (∀ encoded control, Resource.ofSegments? request.segments = some (.control encoded control) →
      response.status ≠ 200 → after = agent) := by
  intro after response
  refine ⟨fun name operation outcome demands => ?_, fun encoded control target failed =>
    unchanged_of_failed target failed⟩
  obtain ⟨result, call, answers⟩ := agent.exists_call_of_demands demands
  have told : (agent.operate operation).2 = (agent.settle result).2 :=
    congrArg Prod.snd call.operates
  cases result with
  | error refusal =>
    have refuses := (call.refused_iff refusal).mp rfl
    have status : response.status = (Fault.ofRefusal refusal).status := answers.status
    have message : (Fault.ofRefusal refusal).message = refusal.message := by
      cases refusal <;> rfl
    rw [status]
    refine ⟨refuses.status.1, refuses.status.2, fun other otherRefuses => ?_,
      fun accepted => absurd refuses (accepted refusal)⟩
    cases (call.refused_iff other).mpr otherRefuses
    refine ⟨told, answers.json.trans ?_⟩
    rw [← message]
    rfl
  | ok next =>
    have accepted (refusal : Refusal) : ¬agent.Refuses name operation refusal := fun refuses =>
      nomatch (call.refused_iff refusal).mpr refuses
    obtain ⟨report, current, answered⟩ := call.reported outcome
    rw [answered] at answers
    have isNext : after = next := answers.after
    have status : response.status = 200 := answers.status
    rw [status]
    refine ⟨iff_of_false nofun fun unknown => accepted (.unknown name) (.inl ⟨unknown, rfl⟩),
      iff_of_false nofun fun ⟨refusal, forbids⟩ => accepted refusal (.inr forbids),
      fun refusal refuses => absurd refuses (accepted refusal),
      fun _ => ⟨rfl, told, ?_, ⟨report, isNext ▸ current, answers.json⟩, fun between => ?_⟩⟩
    · rw [isNext, call.operates]
      rfl
    · rw [isNext]
      have known := Machine.run_invariant Roster.perform (fun roster => name ∈ roster.names)
        (fun _ request => (Roster.persistent_mem_names name).perform request) call.known between
      obtain ⟨later, stated⟩ := Roster.exists_status known
      exact ⟨_, report_of_status _ stated outcome⟩

/-- A request to enable the collector of the containers. -/
def enabling : Request := ⟨"POST", "/api/v1/collectors/docker/enable", [], ""⟩

/-- A request to have it collect every two seconds. -/
def hurrying : Request :=
  ⟨"PATCH", "/api/v1/collectors/docker/interval", [("content-type", "application/json")],
    "\x7b\"interval\":2\x7d"⟩

theorem enabling_target :
    Resource.ofSegments? enabling.segments = some (.control "docker" .enable) := by
  have split : "/api/v1/collectors/docker/enable".splitOn "/" =
      ["", "api", "v1", "collectors", "docker", "enable"] := by
    simp +decide [String.splitOn, String.splitOnAux]
  have segments : enabling.segments = ["", "api", "v1", "collectors", "docker", "enable"] := split
  rw [segments]
  rfl

theorem hurrying_target :
    Resource.ofSegments? hurrying.segments = some (.control "docker" .changeInterval) := by
  have split : "/api/v1/collectors/docker/interval".splitOn "/" =
      ["", "api", "v1", "collectors", "docker", "interval"] := by
    simp +decide [String.splitOn, String.splitOnAux]
  have segments : hurrying.segments = ["", "api", "v1", "collectors", "docker", "interval"] := split
  rw [segments]
  rfl

/-- The collector is enabled on demand, but so short an interval is refused. -/
theorem enabled_unless_short_interval :
    let agent := (assemble 16 default true .empty ⟨.epoch, 0⟩).register "docker" (Plan.ofList [])
      10 false
    ((agent.respond enabling).2.status = 200 ∧
        ∃ status, (agent.respond enabling).1.roster.status "docker" = .ok status) ∧
      (agent.respond hurrying).2.status = 400 ∧ (agent.respond hurrying).1 = agent := by
  intro agent
  have decoded : Text.percentDecoded? "docker" = some "docker" := by decide +kernel
  have known : "docker" ∈ agent.roster.names := Roster.mem_names_iff.mpr ⟨_, rfl⟩
  constructor
  · obtain ⟨-, -, -, granted⟩ := (control_refused_or_reported agent enabling).1 "docker" _ _
      (.enable rfl ⟨"docker", enabling_target, decoded⟩)
    obtain ⟨status, -, -, ⟨report, told, -⟩, -⟩ := granted fun refusal refuses => by
      rcases refuses with ⟨unknown, -⟩ | forbids
      · exact unknown known
      · cases forbids
    exact ⟨status, report, told⟩
  · obtain ⟨answered, unchanged⟩ := control_refused_or_reported agent hurrying
    have demands : hurrying.Demands "docker" _ _ := .changeInterval 2 rfl
      ⟨"docker", hurrying_target, decoded⟩ (by decide +kernel) rfl
    obtain ⟨-, forbidden, -⟩ := answered _ _ _ demands
    have status := forbidden.mpr ⟨_, .interval 2 known (by decide)⟩
    exact ⟨status, unchanged _ _ hurrying_target fun success => nomatch success.symm.trans status⟩

end Agent

end ServerMonitor
