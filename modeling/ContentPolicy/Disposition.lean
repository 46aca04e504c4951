/-!
# Dispositions

A policy is either enforced or only reported on. The disposition decides which header carries it.
-/

namespace ContentPolicy

/-- What a browser does with violations of a policy. -/
inductive Disposition where
  /-- Violations are blocked. -/
  | enforced
  /-- Violations are reported and let through. -/
  | reportOnly
deriving DecidableEq, Repr

/-- The header that carries a policy of a disposition. -/
def Disposition.header : Disposition → String
  | .enforced => "Content-Security-Policy"
  | .reportOnly => "Content-Security-Policy-Report-Only"

end ContentPolicy
