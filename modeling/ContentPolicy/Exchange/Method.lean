/-!
# Request methods

The methods of the requests that are served.
-/

namespace ContentPolicy

inductive Method where
  | get
  | post
  | put
  | delete
  | head
  | options
  | patch
deriving DecidableEq, Repr

/-- The name of a method as a request line states it. -/
def Method.name : Method → String
  | .get => "GET"
  | .post => "POST"
  | .put => "PUT"
  | .delete => "DELETE"
  | .head => "HEAD"
  | .options => "OPTIONS"
  | .patch => "PATCH"

def Method.all : List Method := [.get, .post, .put, .delete, .head, .options, .patch]

def Method.ofName? (name : String) : Option Method := Method.all.find? (·.name == name)

end ContentPolicy
