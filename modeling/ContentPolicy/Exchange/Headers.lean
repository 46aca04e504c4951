import ContentPolicy.OrderedMap
import ContentPolicy.Text.Lowercase

/-!
# Header fields

Header fields are stored under their exact names and looked up without regard to case.
-/

namespace ContentPolicy

/-- Header fields, each with one value under its exact name. -/
abbrev Headers := OrderedMap String

namespace Headers

/-- Whether two names differ at most by case. -/
def sameName (left right : String) : Bool := Text.lowercase left = Text.lowercase right

/-- The value of the first field whose name differs at most by case. -/
def lookup (headers : Headers) (name : String) : Option String :=
  (headers.entries.find? fun field => sameName field.1 name).map Prod.snd

/-- The lookup of a name fails exactly if no field has a variant of the name. -/
theorem lookup_eq_none_iff {headers : Headers} {name : String} :
    headers.lookup name = none ↔ ∀ stored ∈ headers.keys, sameName stored name = false := by
  simp [lookup, OrderedMap.keys]

end Headers

end ContentPolicy
