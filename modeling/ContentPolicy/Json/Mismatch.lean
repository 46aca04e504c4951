import ContentPolicy.Decimal
import ContentPolicy.Disposition
import ContentPolicy.Json.Document
import ContentPolicy.Json.Failure
import ContentPolicy.Text.Literal

/-!
# Documents of the wrong shape

What a document was expected to be and what was found in its place. The wording of a cause quotes
what was found.
-/

namespace ContentPolicy

/-- The field of a configuration that holds the source for a disposition. -/
def Disposition.field : Disposition → String
  | .enforced => "enforced"
  | .reportOnly => "report_only"

/-- The disposition whose field has a name. -/
def Disposition.ofField? (name : String) : Option Disposition :=
  if name = Disposition.enforced.field then some .enforced
  else if name = Disposition.reportOnly.field then some .reportOnly
  else none

namespace Json

/-- What stands in the place of an object. -/
inductive Found where
  | scalar (scalar : Scalar)
  | sequence

/-- Doubles in messages are written out from `0.00001` to below `1e+16`. -/
def numberLayout : Decimal.Layout := ⟨-5, 15⟩

def ticked (text : String) : String := "\x60" ++ text ++ "\x60"

def Found.text : Found → String
  | .scalar .null => "null"
  | .scalar (.bool flag) => "boolean " ++ ticked (if flag then "true" else "false")
  | .scalar (.number (.integer value)) => "integer " ++ ticked value.repr
  | .scalar (.number (.floating value)) =>
    "floating point " ++ ticked (Decimal.textOfFloat numberLayout value)
  | .scalar (.string text) => "string " ++ Text.literal text
  | .sequence => "sequence"

/-- Why a document does not have the wanted shape. -/
inductive Mismatch where
  /-- The value of a directive is neither a flag nor a string nor an array of strings. -/
  | directiveValue
  /-- The value of a field is neither null nor a string nor a policy. -/
  | configuredPolicy
  /-- There is no object to read a policy from. -/
  | policy (found : Found)
  /-- There is neither an object nor an array to read a configuration from. -/
  | config (found : Found)
  | unknownField (name : String)
  | repeatedField (field : Disposition)

def Mismatch.message : Mismatch → String
  | .directiveValue => "data did not match any variant of untagged enum DirectiveValue"
  | .configuredPolicy => "data did not match any variant of untagged enum ConfiguredPolicy"
  | .policy found =>
    "invalid type: " ++ found.text ++ ", expected a map of directive names to values"
  | .config found => "invalid type: " ++ found.text ++ ", expected struct ConfigFile"
  | .unknownField name =>
    "unknown field " ++ ticked name ++ ", expected " ++ ticked Disposition.enforced.field ++
      " or " ++ ticked Disposition.reportOnly.field
  | .repeatedField field => "duplicate field " ++ ticked field.field

def Failure.message : Failure Mismatch → String
  | .truncated => "the text ends too early"
  | .malformed => "the text is not JSON"
  | .mismatch cause => cause.message

end Json

end ContentPolicy
