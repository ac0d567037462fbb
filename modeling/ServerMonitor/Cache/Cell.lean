/-
This file models cells that hold the latest value of something: a plain cell
that keeps its value for good, and one whose value grows stale and is then
derived again from a source when it is read.
-/

namespace ServerMonitor

/-! ### Plain cells -/

/-- The latest value, if any was stored. -/
structure Cell (Value : Type) where
  held : Option Value

namespace Cell

variable {Value : Type}

def empty : Cell Value := ⟨none⟩

def store (_ : Cell Value) (value : Value) : Cell Value := ⟨some value⟩

def load (cell : Cell Value) : Option Value := cell.held

/-- The latest list; an empty one if none was stored. -/
def loadList (cell : Cell (List Value)) : List Value := cell.held.getD []

def isPopulated (cell : Cell Value) : Bool := cell.held.isSome

/-- A cell as a diagnostic text. -/
def debug (cell : Cell Value) : String := s!"CacheCell \x7b populated: {cell.isPopulated} \x7d"

end Cell

/-! ### Sources -/

/-- What a source gives when it is asked. -/
inductive Answer (Value : Type)
  | value (value : Value)
  | failure
  /-- The source breaks down. -/
  | panic

/-- Something that can be asked again and again; each call may be answered differently. -/
structure Source (Value : Type) where
  answer : Nat → Answer Value
  /-- How often it was asked. -/
  calls : Nat

namespace Source

variable {Value : Type}

def ask (source : Source Value) : Source Value × Answer Value :=
  ({ source with calls := source.calls + 1 }, source.answer source.calls)

/-- A source that gives the answers of a list in turn and the last one from then on. -/
def ofList (answers : List (Answer Value)) : Source Value where
  answer call := (answers[min call (answers.length - 1)]?).getD .failure
  calls := 0

end Source

/-! ### Cells that grow stale -/

/-- A value with the time in milliseconds at which it was stored. -/
structure AgingCell (Value : Type) where
  /-- For how many milliseconds a value stays fresh. -/
  lifetime : Nat
  held : Option (Value × Nat)

/-- What a reader of an aging cell gets. -/
inductive Reading (Value : Type)
  | value (value : Option Value)
  /-- The source broke down, and the reader with it. -/
  | panic

namespace AgingCell

variable {Value : Type}

def empty (lifetime : Nat) : AgingCell Value := ⟨lifetime, none⟩

def store (cell : AgingCell Value) (now : Nat) (value : Value) : AgingCell Value :=
  { cell with held := some (value, now) }

/-- The last value, however old. -/
def peek (cell : AgingCell Value) : Option Value := cell.held.map Prod.fst

def isFresh (cell : AgingCell Value) (now : Nat) : Bool :=
  cell.held.any fun (_, storedAt) => now - storedAt < cell.lifetime

/-- The cell and what its reader gets after the source gave this answer. A failure leaves the
last value in place. -/
def refresh (cell : AgingCell Value) (now : Nat) (answer : Answer Value) :
    AgingCell Value × Reading Value :=
  match answer with
  | .value value => (cell.store now value, .value (some value))
  | .failure => (cell, .value cell.peek)
  | .panic => (cell, .panic)

/-- Reads a cell, asking the source if the value is not fresh. -/
def read (cell : AgingCell Value) (now : Nat) (source : Source Value) :
    AgingCell Value × Source Value × Reading Value :=
  if cell.isFresh now then (cell, source, .value cell.peek)
  else
    let (asked, answer) := source.ask
    let (refreshed, reading) := cell.refresh now answer
    (refreshed, asked, reading)

end AgingCell

end ServerMonitor
