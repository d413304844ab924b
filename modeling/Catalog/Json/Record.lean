import Catalog.Decimal
import Catalog.Json.Basic

namespace Catalog.Json

def keys? (members : List (Option String × Json)) : Option (List String) :=
  members.mapM Prod.fst

def member? (members : List (Option String × Json)) (name : String) : Option (Option Json) :=
  match members.filter fun m => m.1 == some name with
  | [] => some none
  | [m] => some (some m.2)
  | _ => none

/-- The values of a record's fields, in their order. The record is an object, whose other members
are passed over, or an array of the values; the last of them may be left out of the array where
`mayEndEarly` says so. -/
def fields? (names : List String) (mayEndEarly : Bool) : Json → Option (List (Option Json))
  | .obj members => (keys? members).bind fun _ => names.mapM (member? members)
  | .arr items =>
    if items.length = names.length ∨ (mayEndEarly ∧ items.length ≤ names.length) then
      some (items.map some ++ List.replicate (names.length - items.length) none)
    else none
  | _ => none

def required? {α : Type} (read : Json → Option α) : Option Json → Option α
  | some v => read v
  | none => none

def optional? {α : Type} (read : Json → Option α) : Option Json → Option (Option α)
  | none | some .null => some none
  | some v => (read v).map some

def int64? : Json → Option Int64
  | .num ['-', '0'] => none
  | .num literal => (Decimal.signed? literal).bind Decimal.toInt64?
  | _ => none

end Catalog.Json
