/-
This file states what clients are told of the network services. Each request reads
the cache once. The answer is the last good state, the latest that was stored or
derived, even if the source fails; but if the source breaks down the client is told
the empty state, while the last good one is still held.
-/

import ServerMonitor.Api.Service
import ServerMonitor.Proofs.Cache.Refreshing
import ServerMonitor.Proofs.Model.Form

namespace ServerMonitor

open Api Json Cache.Timed

/-! ### Texts -/

/-- Different states of the network services have different texts. -/
theorem NetworkServices.toText_inj {services other : NetworkServices} :
    schema.toText services = schema.toText other ↔ services = other := by
  have back (services : NetworkServices) :
      schema.ofText (schema.toText services) = .ok services := by
    have without := schema.reals_eq_nil (by rfl) services
    refine Schema.ofText_toText isFaithful_schema ?_ ?_ <;> rw [without] <;> exact nofun
  refine ⟨fun same => ?_, congrArg _⟩
  have read := (back services).symm.trans ((congrArg schema.ofText same).trans (back other))
  exact Except.ok.inj read

/-! ### Requests -/

/-- A request for the state of the network services. -/
structure Api.Fetch where
  request : Request
  target : Resource.ofSegments? request.segments = some .networkServices
  method : request.method = "GET"

/-- What is told of the network services after this was read. -/
def Reading.told : Reading NetworkServices → NetworkServices
  | .value services => services.getD default
  | .panic => default

namespace Agent

/-- The cache of an agent, at the time that its clock shows. -/
def timedCache (agent : Agent) : Cache.Timed := ⟨agent.cache, agent.clock.elapsed⟩

theorem respond_fetch (agent : Agent) (fetch : Fetch) :
    (agent.respond fetch.request).1 = agent.answerNetworkServices.1 ∧
      (agent.respond fetch.request).2.status = 200 ∧
      (agent.respond fetch.request).2.json = agent.answerNetworkServices.2.json := by
  have answered : agent.answer fetch.request = agent.answerNetworkServices := by
    rw [answer, fetch.target, fetch.method]
    rfl
  rw [respond, fetch.method, answered]
  cases agent.crossOrigin <;> exact ⟨rfl, rfl, rfl⟩

/-- A request reads the cache once, and the answer tells what was read. -/
theorem timedCache_fetch (agent : Agent) (fetch : Fetch) :
    (agent.respond fetch.request).1.timedCache = (agent.timedCache.use .read).1 ∧
      ∃ reading, (agent.timedCache.use .read).2 = some reading ∧
        (agent.respond fetch.request).2.json =
          some (NetworkServices.schema.toText reading.told) := by
  obtain ⟨after, -, json⟩ := agent.respond_fetch fetch
  rw [after, json]
  refine ⟨rfl, _, rfl, ?_⟩
  rw [answerNetworkServices]
  show some (NetworkServices.schema.toText _) = _
  cases (agent.cache.readNetworkServices agent.clock.elapsed).2 <;> rfl

/-! ### Visits -/

inductive Visit
  | store (services : NetworkServices)
  /-- Time passes; the host may be told any other. -/
  | elapse (milliseconds : Nat) (instant : Instant)
  | fetch (fetch : Fetch)

/-- What a visit does, and what is answered. -/
def visit : Machine Agent Visit (Option Response)
  | agent, .store services =>
    ({ agent with cache := agent.cache.storeNetworkServices agent.clock.elapsed services }, none)
  | agent, .elapse milliseconds instant =>
    ({ agent with clock := ⟨instant, agent.clock.elapsed + milliseconds⟩ }, none)
  | agent, .fetch fetch =>
    ((agent.respond fetch.request).1, some (agent.respond fetch.request).2)

/-- What a visit is to the cache. -/
def Visit.use : Visit → Use
  | .store services => .store services
  | .elapse milliseconds _ => .elapse milliseconds
  | .fetch _ => .read

theorem timedCache_visit (agent : Agent) (visit : Visit) :
    (agent.visit visit).1.timedCache = (agent.timedCache.use visit.use).1 := by
  cases visit with
  | store services => rfl
  | elapse milliseconds instant => rfl
  | fetch fetch => exact (agent.timedCache_fetch fetch).1

theorem timedCache_run (agent : Agent) (visits : List Visit) :
    (Machine.run visit agent visits).timedCache =
      agent.timedCache.after (visits.map Visit.use) := by
  induction visits generalizing agent with
  | nil => rfl
  | cons visit rest inductionHypothesis =>
    refine (inductionHypothesis (agent.visit visit).1).trans ?_
    rw [timedCache_visit]
    rfl

/-- The last good state of the network services: the latest that was stored or that the source
gave, or what was held at first. -/
def lastGood (agent : Agent) (visits : List Visit) : Option NetworkServices :=
  ((agent.timedCache.gains (visits.map Visit.use)).getLast?.or agent.timedCache.held).map Prod.fst

/-- Every request for the state of the network services is answered with success, and the last good
state is held afterwards. A source that fails or breaks down leaves it as it was. The answer tells
the last good state exactly if the source did not break down during this request, or if that state
is the empty one anyway; else, and if nothing good ever came, the answer tells the empty state. -/
theorem last_good_unless_source_breaks (agent : Agent) (visits : List Visit) (fetch : Fetch) :
    let now := Machine.run visit agent visits
    let after := (now.respond fetch.request).1
    let response := (now.respond fetch.request).2
    let heard := now.timedCache.heard .read
    let good := agent.lastGood (visits ++ [.fetch fetch])
    response.status = 200 ∧
    after.cache.networkServices.peek = good ∧
    (heard = [.failure] ∨ heard = [.panic] →
      after.cache.networkServices.held = now.cache.networkServices.held) ∧
    (∀ services, good = some services →
      (response.json = some (NetworkServices.schema.toText services) ↔
        heard ≠ [.panic] ∨ services = default)) ∧
    (heard = [.panic] ∨ good = none →
      response.json = some (NetworkServices.schema.toText default)) := by
  intro now after response heard good
  obtain ⟨read, reading, readIs, told⟩ := now.timedCache_fetch fetch
  have held : (now.timedCache.use .read).1.held.map Prod.fst = good := by
    rw [timedCache_run, ← Cache.Timed.after_concat, Cache.Timed.held_after]
    show _ = agent.lastGood _
    rw [lastGood, List.map_append]
    rfl
  have ofBreak (broke : heard = [.panic]) :
      response.json = some (NetworkServices.schema.toText default) := by
    rcases now.timedCache.reading_cases with ⟨-, panics⟩ | ⟨calm, -⟩
    · rw [show response.json = _ from told, ← Option.some.inj (panics.symm.trans readIs)]
      rfl
    · exact absurd broke calm
  have ofCalm (calm : heard ≠ [.panic]) :
      response.json = some (NetworkServices.schema.toText (good.getD default)) := by
    rcases now.timedCache.reading_cases with ⟨broke, -⟩ | ⟨-, reads⟩
    · exact absurd broke calm
    · rw [show response.json = _ from told, ← Option.some.inj (reads.symm.trans readIs), held]
      rfl
  refine ⟨(now.respond_fetch fetch).2.1, ?_, fun nothingNew => ?_, fun services isGood => ?_, ?_⟩
  · exact (congrArg (fun timed : Cache.Timed => timed.held.map Prod.fst) read).trans held
  · -- Neither a failure nor a breakdown brings anything that could be held.
    have idle : now.timedCache.gained .read = [] := by
      rw [gained, show now.timedCache.heard .read = heard from rfl]
      rcases nothingNew with failed | broke
      · rw [failed]
        rfl
      · rw [broke]
        rfl
    have unchanged := now.timedCache.held_use .read
    rw [idle, ← read] at unchanged
    exact unchanged
  · rw [isGood] at ofCalm
    by_cases broke : heard = [.panic]
    · rw [ofBreak broke, Option.some_inj, NetworkServices.toText_inj]
      exact ⟨fun same => .inr same.symm,
        fun either => (either.resolve_left fun calm => calm broke).symm⟩
    · exact iff_of_true (ofCalm broke) (.inl broke)
  · rintro (broke | nothing)
    · exact ofBreak broke
    · by_cases broke : heard = [.panic]
      · exact ofBreak broke
      · rw [ofCalm broke, nothing]
        rfl

/-! ### Sources that do not deliver -/

/-- The plainest request for the state of the network services. -/
def plainFetch : Fetch where
  request := ⟨"GET", "/api/v1/network/services", [], ""⟩
  target := by
    have split : "/api/v1/network/services".splitOn "/" =
        ["", "api", "v1", "network", "services"] := by
      simp +decide [String.splitOn, String.splitOnAux]
    exact congrArg Resource.ofSegments? split
  method := rfl

/-- One service that runs. -/
def someServices : NetworkServices := .ofServices [⟨"smb", true, true, some 445⟩] .epoch

/-- An agent whose source gives these answers about the network services, which it holds for no
time. -/
def servedBy (answers : List (Answer NetworkServices)) : Agent :=
  .assemble 16 default true { Cache.empty.withLifetime 0 with
    networkServicesSource := some (.ofList answers) } ⟨.epoch, 0⟩

/-- A source that fails after it has once succeeded is answered for by what it gave. -/
theorem last_good_of_failing_source :
    let agent := servedBy [.value someServices, .failure]
    let now := Machine.run visit agent [.fetch plainFetch, .elapse 5 .epoch]
    now.timedCache.heard .read = [.failure] ∧
      (now.respond plainFetch.request).2.status = 200 ∧
      (now.respond plainFetch.request).2.json =
        some (NetworkServices.schema.toText someServices) := by
  intro agent now
  have fails : now.timedCache.heard .read = [.failure] := by
    rw [timedCache_run]
    rfl
  obtain ⟨status, -, -, told, -⟩ :=
    last_good_unless_source_breaks agent [.fetch plainFetch, .elapse 5 .epoch] plainFetch
  have calm : now.timedCache.heard .read ≠ [.panic] := by
    rw [fails]
    exact nofun
  exact ⟨fails, status, (told someServices rfl).mpr (.inl calm)⟩

/-- A source that breaks down after it has once succeeded is answered for by the empty state, though
what it gave is still held. -/
theorem empty_answer_of_broken_source :
    let agent := servedBy [.value someServices, .panic]
    let now := Machine.run visit agent [.fetch plainFetch]
    now.cache.networkServices.peek = some someServices ∧
      (now.respond plainFetch.request).2.status = 200 ∧
      (now.respond plainFetch.request).2.json = some (NetworkServices.schema.toText default) ∧
      NetworkServices.schema.toText default ≠ NetworkServices.schema.toText someServices := by
  intro agent now
  obtain ⟨-, status, json⟩ := now.respond_fetch plainFetch
  have held : now.timedCache = agent.timedCache.after [.read] :=
    agent.timedCache_run [.fetch plainFetch]
  refine ⟨congrArg (fun timed : Cache.Timed => timed.cache.networkServices.peek) held, status,
    ?_, ?_⟩
  · obtain ⟨-, reading, readIs, told⟩ := now.timedCache_fetch plainFetch
    rw [held] at readIs
    rw [told, ← Option.some.inj readIs]
    rfl
  · rw [ne_eq, NetworkServices.toText_inj]
    decide

end Agent

end ServerMonitor
