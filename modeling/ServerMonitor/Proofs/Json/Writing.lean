/-
This file states which members a record writes. A record whose fields are all
written has a member for each, in their order, an absent value being null.
-/

import ServerMonitor.Json.Writing

namespace ServerMonitor.Json

/-- Whether every field of a record is written. -/
def Fields.leavesNothingOut : Fields → Bool
  | .nil => true
  | .cons _ presence _ rest => presence = .always && rest.leavesNothingOut

/-- The members of such a record are its fields in their order. -/
theorem Fields.names_write : (fields : Fields) → fields.leavesNothingOut = true →
    (values : fields.Carrier) → (fields.write values).map Prod.fst = fields.names
  | .nil, _, () => rfl
  | .cons name .always _ rest, whole, (_, values) =>
    congrArg (name :: ·) (rest.names_write ((Bool.and_eq_true _ _).mp whole).2 values)
  | .cons _ .unlessNull _ _, whole, _ => nomatch whole
  | .cons _ .mayBeAbsent _ _, whole, _ => nomatch whole

mutual

/-- The records that the values of a shape can consist of, from outside to inside. -/
def Shape.records : Shape → List Fields
  | .leaf _ => []
  | .optional inner => inner.records
  | .list item => item.records
  | .dictionary value => value.records
  | .record fields => fields :: fields.records

def Fields.records : Fields → List Fields
  | .nil => []
  | .cons _ _ shape rest => shape.records ++ rest.records

end

end ServerMonitor.Json
