/-
This file models the requests that reach the interface and the answers that it
gives.
-/

import ServerMonitor.Api.Fault
import ServerMonitor.Api.MediaType

namespace ServerMonitor.Api

/-! ### Requests -/

structure Request where
  method : String
  /-- The path, with a query behind it. -/
  target : String
  /-- Names in lower case, each with its value. -/
  headers : List (String × String)
  body : String

namespace Request

/-- The parts of the path between its slashes. -/
def segments (request : Request) : List String :=
  (String.ofList (request.target.toList.takeWhile fun character =>
    character ≠ '?' && character ≠ '#')).splitOn "/"

def header? (request : Request) (name : String) : Option String := request.headers.lookup name

/-- Whether a header has a value, in whatever letter case. -/
def hasHeader (request : Request) (name value : String) : Bool :=
  (request.header? name).any fun found => MediaType.lowerCase found.toList = value

/-- Whether the value of a header contains a word, in whatever letter case. -/
def mentions (request : Request) (name word : String) : Bool :=
  (request.header? name).any fun found =>
    1 < ((MediaType.lowerCase found.toList).splitOn word).length

/-- Whether a character can stand in the text of a header. -/
def isPlain (character : Char) : Bool :=
  character = '\t' || (' ' ≤ character && character ≤ '~')

/-- Whether the body is declared to be JSON. -/
def declaresJson (request : Request) : Bool :=
  (request.header? "content-type").any fun value =>
    value.toList.all isPlain && (MediaType.ofText? value).any (·.isJson)

end Request

/-! ### Answers -/

structure Response where
  status : Nat
  headers : List (String × String)
  /-- The body, if it is JSON; what other bodies say does not matter. -/
  json : Option String
deriving DecidableEq

namespace Response

/-- An answer that says no more than its status. -/
def bare (status : Nat) : Response := ⟨status, [], none⟩

def ofJson (status : Nat) (text : String) : Response := ⟨status, [], some text⟩

def ofFault (fault : Fault) : Response := ofJson fault.status fault.body.render

/-- The same answer with another header. -/
def withHeader (response : Response) (name value : String) : Response :=
  { response with headers := response.headers ++ [(name, value)] }

/-- The same answer without the text of its body. -/
def withoutText (response : Response) : Response :=
  { response with json := response.json.map fun _ => "" }

end Response

end ServerMonitor.Api
