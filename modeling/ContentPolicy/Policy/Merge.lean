import ContentPolicy.Policy
import ContentPolicy.Record

/-!
# Overrides

A page can lay an override over the policy that applies everywhere. An override extends the
collections of the base and replaces its flags and texts; an override that is marked as a
replacement stands alone.
-/

namespace ContentPolicy

namespace Policy

/-- The value of a name after an update: the update joins a value that is there. -/
def merged (existing : Option Directive.Value) (update : Directive.Value) : Directive.Value :=
  match existing with
  | some value => value.mergeWith update
  | none => update

/-- A policy with one update laid over it. -/
def mergeEntry (policy : Policy) (entry : String × Directive.Value) : Policy :=
  policy.insert entry.1 (merged (policy.get? entry.1) entry.2)

/-- A base policy with the entries of an override laid over it in order. -/
def merge (base overrides : Policy) : Policy := overrides.entries.foldl mergeEntry base

/-- The name under which an override says whether it replaces the base. -/
def overrideKey : String := "override"

/-- Whether an override is marked as a replacement. -/
def replacesBase (overrides : Policy) : Bool :=
  match overrides.get? overrideKey with
  | some marker => marker.isTruthy
  | none => false

/-- An override without its mark. -/
def unmarked (overrides : Policy) : Policy := overrides.erase overrideKey

/-- The policy that results from an override of a base; the mark is never part of it. -/
def overriddenBy (base overrides : Policy) : Policy :=
  if overrides.replacesBase then overrides.unmarked else base.merge overrides.unmarked

/-- The policy that results from an override of a base; a replacement is recorded. -/
def resolveOverride (base overrides : Policy) : Logged Policy :=
  ⟨base.overriddenBy overrides,
    if overrides.replacesBase then [.baseReplaced overrides.unmarked.size] else []⟩

end Policy

end ContentPolicy
