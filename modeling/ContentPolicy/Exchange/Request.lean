import ContentPolicy.Error
import ContentPolicy.Exchange.Headers
import ContentPolicy.Exchange.Method
import ContentPolicy.Url

/-!
# Requests

A request asks for a page with a method and header fields.
-/

namespace ContentPolicy

/-- A request for a page. -/
structure Request where
  method : Method
  url : Url
  headers : Headers
deriving DecidableEq

namespace Request

/-- A request without header fields for the page of an address. International host names are not
served: under a special scheme an address is refused if its host decodes to anything but ASCII, and
a label that begins with `xn--` is taken as it stands. -/
def new (method : Method) (address : String) : Except Error Request :=
  match Url.ofText address with
  | .ok url => .ok { method, url, headers := .empty }
  | .error cause => .error (.address cause)

def withHeader (request : Request) (name value : String) : Request :=
  { request with headers := request.headers.insert name value }

def fullPath (request : Request) : String := request.url.fullPath

/-- The value of a header field, whatever the case of its name. -/
def header (request : Request) (name : String) : Option String := request.headers.lookup name

end Request

end ContentPolicy
