import ContentPolicy.Json.Mismatch
import ContentPolicy.Json.Printer
import ContentPolicy.Json.Reader
import ContentPolicy.Policy

/-!
# Policies in JSON

A policy is written as an object from directive names to values: flags, strings, and arrays of
strings for collections of every form. It is read member by member; each value is read to its end,
then judged, and only then is anything behind it looked at. What is read holds collections as lists.
-/

namespace ContentPolicy

open Json

namespace Directive.Value

/-- The JSON text of a value. -/
def toJson (value : Directive.Value) : String :=
  match value with
  | .bool flag => if flag then "true" else "false"
  | .string text => Quoted.write text
  | .list tokens => writeArray (tokens.map Quoted.write)
  | .set tokens => writeArray (tokens.tokens.map Quoted.write)
  | .tuple tokens => writeArray (tokens.map Quoted.write)

/-- The value that a document holds, if it has one of the shapes of a value. -/
def ofDocument? : Document → Option Directive.Value
  | .scalar (.bool flag) => some (.bool flag)
  | .scalar (.string text) => some (.string text)
  | .array items => (items.mapM Document.text?).map .list
  | _ => none

/-- Judges the document that was read for a value. -/
def ofDocument (document : Document) : Except (Failure Mismatch) Directive.Value :=
  match ofDocument? document with
  | some value => .ok value
  | none => .error (.mismatch .directiveValue)

/-- Reads a value inside as many arrays and objects as leave the given budget. -/
def read (budget : Nat) : Reader Mismatch Directive.Value := fun text =>
  match readDocument budget text with
  | .error failure => .error failure
  | .ok (document, rest) => (ofDocument document).map (·, rest)

/-- The value that a text writes. -/
def ofJson (text : String) : Except (Failure Mismatch) Directive.Value :=
  readWhole (read nestingLimit) text

end Directive.Value

namespace Json

/-- The failure of a text that begins with something else than an object. An array is refused at
its bracket, everything else when it has been read. -/
def refusal (wanted : Found → Mismatch) (mark : Char) (rest : List Char) : Failure Mismatch :=
  if mark = '[' then .mismatch (wanted .sequence)
  else
    match readScalar mark rest with
    | .error failure => failure
    | .ok (scalar, _) => .mismatch (wanted (.scalar scalar))

end Json

namespace Policy

/-- The JSON text of a policy. -/
def toJson (policy : Policy) : String :=
  writeObject (policy.entries.map fun entry => (entry.1, entry.2.toJson))

/-- Reads the value of one member and writes it to a policy. -/
def readMember (policy : Policy) (name : String) : Reader Mismatch Policy := fun text =>
  match readColon text with
  | .error failure => .error failure
  | .ok text =>
    (Directive.Value.read (nestingLimit - 1) text).map fun (value, rest) =>
      (policy.insert name value, rest)

/-- Reads a policy. -/
def read : Reader Mismatch Policy := fun text =>
  match skipBlanks text with
  | [] => .error .truncated
  | mark :: rest =>
    if mark = '\x7b' then readMembers readMember OrderedMap.empty rest
    else .error (refusal .policy mark rest)

/-- The policy that a text writes. -/
def ofJson (text : String) : Except (Failure Mismatch) Policy := readWhole read text

/-- The entries that the members of an object hold, if each of them holds a value. -/
def entriesOf? (members : List (String × Document)) : Option (List (String × Directive.Value)) :=
  members.mapM fun member => (Directive.Value.ofDocument? member.2).map (member.1, ·)

/-- The policy of the members of an object, if each of them holds a value. -/
def ofMembers? (members : List (String × Document)) : Option Policy :=
  (entriesOf? members).map OrderedMap.ofList

end Policy

end ContentPolicy
