/-
This file ties types to shapes: a schema says how the values of a type are
carried by a shape, and so how they are written and read. Nothing is lost on
the way into the shape.
-/

import ServerMonitor.Json.Reading
import ServerMonitor.Json.Writing

namespace ServerMonitor.Json

structure Schema (Model : Type) where
  shape : Shape
  toParts : Model → shape.Carrier
  ofParts : shape.Carrier → Model
  ofParts_toParts : ∀ model, ofParts (toParts model) = model

namespace Schema

variable {Model : Type}

/-- Lists of the values of a schema. -/
def list (schema : Schema Model) : Schema (List Model) where
  shape := .list schema.shape
  toParts models := models.map schema.toParts
  ofParts parts := parts.map schema.ofParts
  ofParts_toParts models := by simp [Function.comp_def, schema.ofParts_toParts]

def write (schema : Schema Model) (model : Model) : Value :=
  schema.shape.write (schema.toParts model)

def read (schema : Schema Model) (value : Value) : Except Fault Model :=
  (schema.shape.read value).map schema.ofParts

/-- A value as text. -/
def toText (schema : Schema Model) (model : Model) : String := (schema.write model).render

/-- The value that a whole text holds. -/
def ofText (schema : Schema Model) (text : String) : Except Fault Model :=
  let (value, complete) := readWhole text
  match schema.read value with
  | .ok model => if complete then .ok model else .error .malformed
  | .error fault => .error fault

/-- The value that a text starts with. -/
def ofTextStart (schema : Schema Model) (text : String) : Except Fault Model :=
  schema.read (readFirst text)

end Schema

end ServerMonitor.Json
