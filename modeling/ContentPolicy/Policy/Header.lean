import ContentPolicy.Directive.Emission
import ContentPolicy.Policy
import ContentPolicy.Record

/-!
# Headers

The header value of a policy states its directives in order, separated by a semicolon and a space.
A policy is written as a whole or not at all: its first refused directive refuses it.
-/

namespace ContentPolicy

open Directive

/-- What stands between two directives of a header. -/
def directiveSeparator : String := "; "

/-- The header value that states a list of directives. -/
def headerText (emissions : List Emission) : String :=
  directiveSeparator.intercalate (emissions.map Emission.text)

namespace Policy

/-- The emissions of a list of entries in order, or the cause that refuses the first invalid one. -/
def emissionsOf : List (String × Value) → Except Directive.Error (List Emission)
  | [] => .ok []
  | entry :: rest =>
    match emission entry.1 entry.2 with
    | .error cause => .error cause
    | .ok first => (emissionsOf rest).map (first.toList ++ ·)

def emissions (policy : Policy) : Except Directive.Error (List Emission) :=
  emissionsOf policy.entries

/-- The header value of a policy. -/
def header (policy : Policy) : Except Directive.Error String := policy.emissions.map headerText

/-- The header value of a policy; a success is recorded with the number of directives emitted. -/
def compile (policy : Policy) : Logged (Except Directive.Error String) :=
  match policy.emissions with
  | .error cause => ⟨.error cause, []⟩
  | .ok emissions =>
    ⟨.ok (headerText emissions), [.compiled emissions.length policy.size]⟩

theorem value_compile (policy : Policy) : policy.compile.value = policy.header := by
  unfold compile header
  cases policy.emissions <;> rfl

end Policy

end ContentPolicy
