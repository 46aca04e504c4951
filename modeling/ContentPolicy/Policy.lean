import ContentPolicy.Directive.Value
import ContentPolicy.OrderedMap

/-!
# Policies

A policy binds directive names to values, in the order in which a header states them.
-/

namespace ContentPolicy

/-- A policy: directive names with their values, in order of first insertion. -/
abbrev Policy := OrderedMap Directive.Value

end ContentPolicy
