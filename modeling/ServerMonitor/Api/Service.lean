/-
This file answers requests. Reading answers from the cache and never touches the
bus; a request to control a collector is passed to the roster and answered with
the status of the collector right after.
-/

import ServerMonitor.Agent.Control
import ServerMonitor.Api.Body
import ServerMonitor.Api.Request
import ServerMonitor.Api.Resource
import ServerMonitor.Text.Percent

namespace ServerMonitor

open Api Collector

namespace Agent

/-! ### Health -/

/-- That the agent is alive, with a summary of its parts. -/
def health (agent : Agent) : Health :=
  let registry := agent.hub.registry
  { status := "ok"
    version
    timestamp := agent.clock.instant.writtenWithOffset
    uptimeSeconds := Int64.ofInt (agent.clock.instant.secondsSince agent.startedAt)
    cached := agent.cache.populated
    bus := ⟨UInt64.ofNat agent.bus.topicCount, UInt64.ofNat agent.bus.capacity⟩
    stream := ⟨UInt64.ofNat registry.clientCount, registry.delivered, registry.evicted,
      !registry.closed⟩ }

/-! ### Cache -/

/-- The body of the answer to a failure that nobody provided for. -/
def internalError : Response := .ofJson 500 (Fault.bodyOf "internal server error").render

/-- The state of the network services; a source that breaks down is answered for by the empty
state. -/
def answerNetworkServices (agent : Agent) : Agent × Response :=
  let (cache, reading) := agent.cache.readNetworkServices agent.clock.elapsed
  let services := match reading with
    | .value services => services.getD default
    | .panic => default
  ({ agent with cache }, .ofJson 200 (NetworkServices.schema.toText services))

def answerParityHistory (agent : Agent) : Agent × Response :=
  let (cache, reading) := agent.cache.readParityHistory
  let response := match reading with
    | .value history => Response.ofJson 200 (ParityHistory.schema.toText (history.getD default))
    | .panic => internalError
  ({ agent with cache }, response)

/-! ### Collectors -/

/-- The answer about one collector. -/
def answerStatus (agent : Agent) (name : String) : Response :=
  match agent.roster.status name with
  | .ok status => .ofJson 200 (CollectorStatus.schema.toText status)
  | .error refusal => .ofFault (.ofRefusal refusal)

/-- Reports what became of a collector that was controlled. -/
def report (agent : Agent) (name outcome : String) : Except Fault ControlReport :=
  match agent.roster.status name with
  | .ok collector => .ok ⟨true, s!"collector {name} {outcome}", collector⟩
  | .error refusal => .error (.internal refusal.message)

/-- The answer to a request to control a collector. A refused request changes nothing. -/
def answerControl (agent : Agent) (name outcome : String) (result : Except Refusal Agent) :
    Agent × Response :=
  match result with
  | .error refusal => (agent, .ofFault (.ofRefusal refusal))
  | .ok after =>
    (after, match after.report name outcome with
      | .ok report => .ofJson 200 (ControlReport.schema.toText report)
      | .error fault => .ofFault fault)

/-- The answer to a request to change an interval; its body is looked at before anything else. -/
def answerInterval (agent : Agent) (name : String) (request : Request) : Agent × Response :=
  if !request.declaresJson then (agent, .bare 415)
  else
    match IntervalRequest.schema.ofTextStart request.body with
    | .error .malformed => (agent, .bare 400)
    | .error .mismatch => (agent, .bare 422)
    | .ok ⟨interval⟩ =>
      agent.answerControl name s!"interval set to {interval}s" (agent.changeInterval name interval)

/-! ### The live connection -/

/-- The answer to a request for a live connection on a line that cannot carry one. -/
def answerStream (request : Request) : Response :=
  if request.method ≠ "GET" then .bare 405
  else if request.mentions "connection" "upgrade" && request.hasHeader "upgrade" "websocket" &&
      request.hasHeader "sec-websocket-version" "13" &&
      (request.header? "sec-websocket-key").isSome then
    .bare 426
  else .bare 400

/-! ### All requests -/

/-- The answer about a collector whose name stands encoded in the path. -/
def answerNamed (agent : Agent) (encoded : String) (answer : String → Agent × Response) :
    Agent × Response :=
  match Text.percentDecoded? encoded with
  | some name => answer name
  | none => (agent, .bare 400)

/-- The answer to a request for a resource by one of its methods. -/
def answerResource (agent : Agent) (request : Request) : Resource → Agent × Response
  | .health => (agent, .ofJson 200 (Health.schema.toText agent.health))
  | .latest kind => (agent, .ofJson 200 (kind.schema.toText (agent.cache.latest kind)))
  | .parityHistory => agent.answerParityHistory
  | .networkServices => agent.answerNetworkServices
  | .collectors =>
    (agent, .ofJson 200
      (CollectorsStatus.schema.toText (agent.roster.allStatus agent.clock.instant)))
  | .collector encoded => agent.answerNamed encoded fun name => (agent, agent.answerStatus name)
  | .control encoded control => agent.answerNamed encoded fun name =>
    match control with
    | .enable => agent.answerControl name "enabled" (agent.enable name)
    | .disable => agent.answerControl name "disabled" (agent.disable name)
    | .changeInterval => agent.answerInterval name request
  | .stream => (agent, answerStream request)

/-- The answer to a request that another origin makes to learn what it may do. -/
def preflight (resource : Option Resource) : Response :=
  let open_ := ((Response.bare 200).withHeader "access-control-allow-headers" "*").withHeader
    "access-control-allow-methods" "*"
  let shared := open_.withHeader "access-control-allow-origin" "*"
  resource.elim shared fun resource => shared.withHeader "allow" resource.access.allow

/-- The answer to a request, apart from what concerns other origins. -/
def answer (agent : Agent) (request : Request) : Agent × Response :=
  match Resource.ofSegments? request.segments with
  | none => (agent, .bare 404)
  | some resource =>
    if !resource.access.methods.contains request.method then
      (agent, (Response.bare 405).withHeader "allow" resource.access.allow)
    else
      let (after, response) := agent.answerResource request resource
      (after, if request.method = "HEAD" then response.withoutText else response)

/-- The answer to a request. -/
def respond (agent : Agent) (request : Request) : Agent × Response :=
  if !agent.crossOrigin then agent.answer request
  else if request.method = "OPTIONS" then
    (agent, preflight (Resource.ofSegments? request.segments))
  else
    let (after, response) := agent.answer request
    (after, response.withHeader "access-control-allow-origin" "*")

end Agent

end ServerMonitor
