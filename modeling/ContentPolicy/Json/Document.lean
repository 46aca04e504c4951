/-!
# JSON documents

A document is a scalar, an array or an object. An object keeps its members in order, repeated names
included.
-/

namespace ContentPolicy

namespace Json

/-- A number of a document: an integer of 64 bits, or a double. -/
inductive Number where
  | integer (value : Int)
  | floating (value : Float)

/-- A document without parts. -/
inductive Scalar where
  | null
  | bool (flag : Bool)
  | number (number : Number)
  | string (text : String)

inductive Document where
  | scalar (scalar : Scalar)
  | array (items : List Document)
  | object (members : List (String × Document))

def Document.text? : Document → Option String
  | .scalar (.string text) => some text
  | _ => none

end Json

end ContentPolicy
