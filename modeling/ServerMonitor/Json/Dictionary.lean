/-
This file models dictionaries from texts to values in the order in which their
keys first came, each key once.
-/

namespace ServerMonitor

structure Dictionary (Value : Type) where
  entries : List (String × Value)
  distinct : (entries.map Prod.fst).Nodup

namespace Dictionary

variable {Value Other : Type}

def empty : Dictionary Value := ⟨[], .nil⟩

instance : Inhabited (Dictionary Value) := ⟨empty⟩

def find? (dictionary : Dictionary Value) (key : String) : Option Value :=
  dictionary.entries.lookup key

def map (change : Value → Other) (dictionary : Dictionary Value) : Dictionary Other :=
  ⟨dictionary.entries.map fun entry => (entry.1, change entry.2), by
    simpa [List.map_map, Function.comp_def] using dictionary.distinct⟩

/-- Replaces the value of a key where it stands, or adds the key at the end. -/
def putEntry (key : String) (value : Value) : List (String × Value) → List (String × Value)
  | [] => [(key, value)]
  | entry :: rest =>
    if entry.1 = key then (key, value) :: rest else entry :: putEntry key value rest

theorem mem_keys_putEntry (key other : String) (value : Value)
    (entries : List (String × Value)) :
    other ∈ (putEntry key value entries).map Prod.fst ↔
      other = key ∨ other ∈ entries.map Prod.fst := by
  induction entries with
  | nil => simp [putEntry]
  | cons entry rest inductionHypothesis =>
    simp only [putEntry]
    split
    · rename_i same
      simp [same]
    · simp only [List.map_cons, List.mem_cons, inductionHypothesis]
      exact or_left_comm

theorem nodup_keys_putEntry (key : String) (value : Value) (entries : List (String × Value))
    (distinct : (entries.map Prod.fst).Nodup) :
    ((putEntry key value entries).map Prod.fst).Nodup := by
  induction entries with
  | nil => simp [putEntry]
  | cons entry rest inductionHypothesis =>
    simp only [List.map_cons, List.nodup_cons] at distinct
    simp only [putEntry]
    split
    · rename_i same
      simpa [← same] using distinct
    · rename_i different
      simp only [List.map_cons, List.nodup_cons, mem_keys_putEntry, not_or]
      exact ⟨⟨different, distinct.1⟩, inductionHypothesis distinct.2⟩

/-- The dictionary with this value for a key; the last value given to a key counts. -/
def insert (dictionary : Dictionary Value) (key : String) (value : Value) : Dictionary Value :=
  ⟨putEntry key value dictionary.entries, nodup_keys_putEntry _ _ _ dictionary.distinct⟩

end Dictionary

end ServerMonitor
