import ContentPolicy.Disposition
import ContentPolicy.Exchange.Headers
import ContentPolicy.Policy

/-!
# Responses

A response answers a request. Besides what is sent it holds the overrides that the page asks for,
one slot for each disposition; an override without entries is still an override.
-/

namespace ContentPolicy

/-- A response on its way out. -/
structure Response where
  status : Nat
  headers : Headers
  body : ByteArray
  /-- What the page asks of the enforced policy. -/
  enforcedOverride : Option Policy
  /-- What the page asks of the policy that is only reported on. -/
  reportOverride : Option Policy

namespace Response

def new (status : Nat) : Response :=
  { status, headers := .empty, body := .empty, enforcedOverride := none, reportOverride := none }

def withBody (response : Response) (body : ByteArray) : Response := { response with body }

/-- The response with a value under the exact name of a header field. -/
def setHeader (response : Response) (name value : String) : Response :=
  { response with headers := response.headers.insert name value }

/-- The response with an override in the slot of a disposition. -/
def withOverride (response : Response) (slot : Disposition) (overrides : Policy) : Response :=
  match slot with
  | .enforced => { response with enforcedOverride := some overrides }
  | .reportOnly => { response with reportOverride := some overrides }

def override? (response : Response) : Disposition → Option Policy
  | .enforced => response.enforcedOverride
  | .reportOnly => response.reportOverride

/-- The value of a header field, whatever the case of its name. -/
def header (response : Response) (name : String) : Option String := response.headers.lookup name

/-- Whether there is a header field of a name, whatever its case. -/
def hasHeader (response : Response) (name : String) : Bool := (response.header name).isSome

end Response

end ContentPolicy
