import ContentPolicy.Exchange.Request
import ContentPolicy.Exchange.Response

/-!
# Policy sources

Where the base policy of a header comes from: a header value that is written as it is, a fixed
policy, or a policy that is computed for each response, as a whole or directive by directive.
-/

namespace ContentPolicy

/-- Where the value of a directive comes from. -/
inductive ValueSource where
  | fixed (value : Directive.Value)
  | computed (compute : Request → Response → Directive.Value)

namespace ValueSource

def resolve (source : ValueSource) (request : Request) (response : Response) : Directive.Value :=
  match source with
  | .fixed value => value
  | .computed compute => compute request response

/-- Whether the value waits for a response. -/
def isDeferred : ValueSource → Bool
  | .fixed _ => false
  | .computed _ => true

end ValueSource

/-- Where a base policy comes from. -/
inductive PolicySource where
  | verbatim (header : String)
  | fixed (policy : Policy)
  /-- Directives with a source each; of those with one name the last counts. -/
  | perDirective (directives : List (String × ValueSource))
  | computed (compute : Request → Response → Policy)

/-- What a source gives for a response. -/
inductive Resolved where
  | verbatim (header : String)
  | structured (policy : Policy)
deriving DecidableEq

namespace PolicySource

/-- Whether a source says anything; a policy that is computed always counts. -/
def isConfigured : PolicySource → Bool
  | .verbatim header => !header.isEmpty
  | .fixed policy => !policy.isEmpty
  | .perDirective directives => !directives.isEmpty
  | .computed _ => true

/-- Whether a part of the policy waits for a response. -/
def isDeferred : PolicySource → Bool
  | .verbatim _ => false
  | .fixed _ => false
  | .perDirective directives => directives.any fun directive => directive.2.isDeferred
  | .computed _ => true

/-- The base for a response. -/
def resolve (source : PolicySource) (request : Request) (response : Response) : Resolved :=
  match source with
  | .verbatim header => .verbatim header
  | .fixed policy => .structured policy
  | .perDirective directives =>
    .structured <| .ofList <| directives.map fun directive =>
      (directive.1, directive.2.resolve request response)
  | .computed compute => .structured (compute request response)

end PolicySource

end ContentPolicy
