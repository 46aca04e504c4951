import ContentPolicy.Directive.Kind
import ContentPolicy.Directive.Value

/-!
# Invalid directives

Why a directive cannot be written. Each cause names its directive, by itself or through its kind.
-/

namespace ContentPolicy

namespace Directive

/-- The cause for refusing a directive. -/
inductive Error where
  | unknownDirective (name : String)
  | notListLike (directive : String) (found : Form)
  | notString (directive : String) (found : Form)
  | unknownSandboxValue (token : String)
  | unknownSriValue (text : String)
deriving DecidableEq

namespace Error

/-- The name of the directive that is refused. -/
def directive : Error → String
  | .unknownDirective name => name
  | .notListLike directive _ => directive
  | .notString directive _ => directive
  | .unknownSandboxValue _ => sandboxName
  | .unknownSriValue _ => requireSriForName

def message : Error → String
  | .unknownDirective name => "Unknown directive: " ++ name
  | .notListLike directive found =>
    "Values for " ++ directive ++ " must be list-like, not " ++ found.name
  | .notString directive found =>
    "Values for " ++ directive ++ " must be a string, not " ++ found.name
  | .unknownSandboxValue token => "Unknown sandbox value: " ++ token
  | .unknownSriValue text => "Unknown require-sri-for value: " ++ text

end Error

end Directive

end ContentPolicy
