import ContentPolicy.Json.Mismatch
import ContentPolicy.Url.Error

/-!
# Errors

What can go wrong outside of the policies themselves: no header is configured, a configuration
cannot be read, or a request names no page.
-/

namespace ContentPolicy

/-- Why a service or a request cannot be set up. -/
inductive Error where
  | notUsed
  | config (failure : Json.Failure Json.Mismatch)
  | address (cause : Url.Error)

namespace Error

def isNotUsed : Error → Bool
  | .notUsed => true
  | _ => false

def message : Error → String
  | .notUsed => "No Content Security Policy configured"
  | .config failure => "Invalid CSP configuration: " ++ failure.message
  | .address cause => "URL parsing error: " ++ cause.message

end Error

end ContentPolicy
