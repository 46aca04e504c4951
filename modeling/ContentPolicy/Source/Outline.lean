import ContentPolicy.Source
import ContentPolicy.Text.Literal
import ContentPolicy.Text.Outline

/-!
# Outlines of values and sources

How values, policies and sources are shown to a programmer. What is computed is not looked into.
-/

namespace ContentPolicy

open Text (Outline literal)

def textOutline (text : String) : Outline := .leaf (literal text)

/-- The outline of a name with what it is bound to. -/
def pairOutline (name : String) (bound : Outline) : Outline := .call "" [textOutline name, bound]

def Directive.Value.outline : Directive.Value → Outline
  | .bool flag => .call "Bool" [.leaf (if flag then "true" else "false")]
  | .string text => .call "Str" [textOutline text]
  | .list tokens => .call "List" [.list (tokens.map textOutline)]
  | .set tokens => .call "Set" [.set (tokens.tokens.map textOutline)]
  | .tuple tokens => .call "Tuple" [.list (tokens.map textOutline)]

def Policy.outline (policy : Policy) : Outline :=
  .record "Policy"
    [("entries", .list (policy.entries.map fun entry => pairOutline entry.1 entry.2.outline))]

def ValueSource.outline : ValueSource → Outline
  | .fixed value => .call "Value" [value.outline]
  | .computed _ => .leaf "Thunk(..)"

def PolicySource.outline : PolicySource → Outline
  | .verbatim header => .call "Raw" [textOutline header]
  | .fixed policy => .call "Static" [policy.outline]
  | .perDirective directives =>
    .call "PerDirective"
      [.list (directives.map fun directive => pairOutline directive.1 directive.2.outline)]
  | .computed _ => .leaf "Dynamic(..)"

end ContentPolicy
