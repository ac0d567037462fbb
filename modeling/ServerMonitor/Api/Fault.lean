/-
This file models the failures that the interface reports to its clients: what
went wrong, the status code and the body of the answer.
-/

import ServerMonitor.Collector.Refusal
import ServerMonitor.Json.Value
import ServerMonitor.Text.Quoted

namespace ServerMonitor.Api

open Json

inductive Fault
  | invalidRequest (message : String)
  | notFound (message : String)
  | internal (message : String)
deriving DecidableEq

namespace Fault

def message : Fault → String
  | invalidRequest message => message
  | notFound message => message
  | internal message => message

def status : Fault → Nat
  | invalidRequest _ => 400
  | notFound _ => 404
  | internal _ => 500

/-- The body that reports a failure. -/
def bodyOf (message : String) : Value :=
  .ofMembers [("error", .ofText message), ("success", .bool false)]

def body (fault : Fault) : Value := bodyOf fault.message

/-- A failure as a diagnostic text. -/
def debug : Fault → String
  | invalidRequest message => s!"InvalidRequest({Text.quoted message})"
  | notFound message => s!"NotFound({Text.quoted message})"
  | internal message => s!"Internal({Text.quoted message})"

/-- How the refusal of a control request is reported. -/
def ofRefusal (refusal : Collector.Refusal) : Fault :=
  match refusal with
  | .unknown _ => .notFound refusal.message
  | .required _ | .interval _ => .invalidRequest refusal.message

end Fault

end ServerMonitor.Api
