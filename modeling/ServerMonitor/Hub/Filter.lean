/-
This file models what a client wants to hear: everything, or the topics on a
list. A client changes its filter with a control frame; frames that are no
control frames change nothing.
-/

import ServerMonitor.Json.Schema

namespace ServerMonitor

open Json

/-- The topics a client wants, sorted and each once; nothing stands for all topics. -/
structure Filter where
  allowed : Option (List String)
deriving DecidableEq, Inhabited

namespace Filter

/-- The filter that lets every topic through. -/
def everything : Filter := ⟨none⟩

/-- The filter for a list of topics; an empty list stands for every topic. -/
def ofTopics (topics : Option (List String)) : Filter :=
  match topics with
  | none | some [] => everything
  | some topics => ⟨some ((topics.mergeSort (fun left right => decide (left ≤ right))).eraseDups)⟩

def accepts (filter : Filter) (topic : String) : Bool :=
  filter.allowed.all fun topics => topics.contains topic

end Filter

/-! ### Control frames -/

/-- What a client can say. A missing list changes nothing, null stands for every topic. -/
structure ControlFrame where
  subscribe : Option (Option (List String))

def ControlFrame.schema : Schema ControlFrame where
  shape := .record (.optionalField "subscribe" (.optional (.list .text)) .nil)
  toParts frame := (frame.subscribe, ())
  ofParts := fun (subscribe, ()) => { subscribe }
  ofParts_toParts _ := rfl

/-- The filter that a text frame asks for. -/
def Filter.requested? (text : String) : Option Filter :=
  match ControlFrame.schema.ofText text with
  | .ok ⟨some topics⟩ => some (ofTopics topics)
  | _ => none

/-- The filter after a text frame. -/
def Filter.control (filter : Filter) (text : String) : Filter :=
  (Filter.requested? text).getD filter

end ServerMonitor
