import ContentPolicy.Json.Quoted

/-!
# Writing JSON

The compact form of arrays and objects, without a blank between their parts.
-/

namespace ContentPolicy

namespace Json

def writeArray (items : List String) : String := "[" ++ ",".intercalate items ++ "]"

/-- A member with a name and a written value. -/
def writeMember (name value : String) : String := Quoted.write name ++ ":" ++ value

def writeObject (members : List (String × String)) : String :=
  "\x7b" ++ ",".intercalate (members.map fun member => writeMember member.1 member.2) ++ "\x7d"

end Json

end ContentPolicy
