/-
This file ties topics to cache entries. A binding says which kind of payload is
announced on a topic and how it changes the cache; a list of bindings decides
what a subscriber listens to and what it does with each payload.
-/

import ServerMonitor.Cache.Basic

namespace ServerMonitor

open Text

/-- A topic, the kind announced on it and what a payload of that kind does to the cache. -/
structure Binding where
  topic : String
  kind : Kind
  update : Payload → Cache → Cache

namespace Binding

/-- The binding of a kind to a topic; payloads of other kinds change nothing. -/
def ofUpdate (topic : String) (kind : Kind) (update : kind.Model → Cache → Cache) : Binding where
  topic
  kind
  update payload cache :=
    match payload.valueOf? kind with
    | some value => update value cache
    | none => cache

/-- The binding of a kind to its own topic and cache entry. -/
def ofKind (kind : Kind) : Binding :=
  ofUpdate kind.topic kind fun value cache => cache.store ⟨kind, value⟩

/-- The bindings of all kinds that feed the cache. -/
def standard : List Binding := Kind.cached.map ofKind

/-- A binding as a diagnostic text. -/
def debug (binding : Binding) : String :=
  s!"Binding \x7b topic: {quoted binding.topic}, kind: {binding.kind.name} \x7d"

end Binding

/-- The topics whose payloads are passed on to clients. -/
def broadcastTopics : List String :=
  Binding.standard.map (·.topic) ++ [Kind.collectorState.topic]

/-- The name of events whose kind has no topic; every kind has one. -/
def fallbackEventName : String := "update"

/-- What a subscriber of the cache goes by. Of several bindings of a kind the last counts. -/
structure Dispatch where
  bindings : List Binding

namespace Dispatch

def standard : Dispatch := ⟨Binding.standard⟩

/-- The topics to listen on, in the order of the bindings. -/
def topics (dispatch : Dispatch) : List String := dispatch.bindings.map (·.topic)

/-- The binding that counts for a kind. -/
def binding? (dispatch : Dispatch) (kind : Kind) : Option Binding :=
  dispatch.bindings.reverse.find? fun binding => binding.kind = kind

def handles (dispatch : Dispatch) (kind : Kind) : Bool := (dispatch.binding? kind).isSome

/-- Applies a payload to the cache and yields whether there is a binding for its kind. -/
def apply (dispatch : Dispatch) (payload : Payload) (cache : Cache) : Cache × Bool :=
  match dispatch.binding? payload.kind with
  | some binding => (binding.update payload cache, true)
  | none => (cache, false)

/-- The dispatch as a diagnostic text. -/
def debug (dispatch : Dispatch) : String :=
  s!"CacheDispatch \x7b topics: {quotedList dispatch.topics} \x7d"

end Dispatch

end ServerMonitor
