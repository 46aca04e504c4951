import ContentPolicy.Json.Numeral
import ContentPolicy.Json.Quoted

/-!
# Reading JSON

Documents are read from a list of characters with a budget for nesting. The loops over the items of
an array and the members of an object take the reading of one item or member as a parameter, so
that a reader for a particular shape can judge each part as soon as it is read.
-/

namespace ContentPolicy

namespace Json

variable {μ σ α : Type}

/-- Whether a character may stand between the parts of a document. -/
def isBlank (character : Char) : Bool :=
  character = ' ' || character = '\n' || character = '\t' || character = '\r'

/-- A text without the blanks in front. -/
def skipBlanks (text : List Char) : List Char := text.dropWhile isBlank

def readWord : List Char → List Char → Except (Failure μ) (List Char)
  | [], text => .ok text
  | _ :: _, [] => .error .truncated
  | expected :: word, found :: text =>
    if expected = found then readWord word text else .error .malformed

/-- What stands in a collection after its opening bracket or after one of its parts. -/
inductive Next where
  /-- The closing bracket, with the text behind it. -/
  | closed (rest : List Char)
  /-- A further part, with the text in which it is read. -/
  | part (text : List Char)

/-- Looks for the next item of an array, which a comma parts from one before it. -/
def nextItem (first : Bool) (text : List Char) : Except (Failure μ) Next :=
  match skipBlanks text with
  | [] => .error .truncated
  | mark :: rest =>
    if mark = ']' then .ok (.closed rest)
    else if first then .ok (.part (mark :: rest))
    else if mark = ',' then
      match skipBlanks rest with
      | [] => .error .truncated
      | head :: tail => if head = ']' then .error .malformed else .ok (.part (head :: tail))
    else .error .malformed

def openName : List Char → Except (Failure μ) Next
  | [] => .error .truncated
  | mark :: rest => if mark = '"' then .ok (.part rest) else .error .malformed

/-- Looks for the next member of an object, which a comma parts from one before it; its text begins
behind the opening quote of its name. -/
def nextMember (first : Bool) (text : List Char) : Except (Failure μ) Next :=
  match skipBlanks text with
  | [] => .error .truncated
  | mark :: rest =>
    if mark = '}' then .ok (.closed rest)
    else if first then openName (mark :: rest)
    else if mark = ',' then openName (skipBlanks rest)
    else .error .malformed

/-- Reads the colon between the name and the value of a member. -/
def readColon (text : List Char) : Except (Failure μ) (List Char) :=
  match skipBlanks text with
  | [] => .error .truncated
  | mark :: rest => if mark = ':' then .ok rest else .error .malformed

/-- Reads the items of an array up to its closing bracket, each with one step from a state to the
next. Every round reads at least one character, so the fuel of a text is its length and one. -/
def foldItems (step : σ → Reader μ σ) : Nat → Bool → σ → Reader μ σ
  | 0, _, _, _ => .error .malformed
  | fuel + 1, first, state, text =>
    match nextItem first text with
    | .error failure => .error failure
    | .ok (.closed rest) => .ok (state, rest)
    | .ok (.part text) =>
      match step state text with
      | .error failure => .error failure
      | .ok (state, rest) => foldItems step fuel false state rest

/-- Reads the members of an object up to its closing brace. The step takes the name of the member
and reads from behind its closing quote. -/
def foldMembers (step : σ → String → Reader μ σ) : Nat → Bool → σ → Reader μ σ
  | 0, _, _, _ => .error .malformed
  | fuel + 1, first, state, text =>
    match nextMember first text with
    | .error failure => .error failure
    | .ok (.closed rest) => .ok (state, rest)
    | .ok (.part text) =>
      match Quoted.read text with
      | .error failure => .error failure
      | .ok (name, text) =>
        match step state name text with
        | .error failure => .error failure
        | .ok (state, rest) => foldMembers step fuel false state rest

/-- Reads the items of an array from behind its opening bracket. -/
def readItems (step : σ → Reader μ σ) (start : σ) : Reader μ σ := fun text =>
  foldItems step (text.length + 1) true start text

/-- Reads the members of an object from behind its opening brace. -/
def readMembers (step : σ → String → Reader μ σ) (start : σ) : Reader μ σ := fun text =>
  foldMembers step (text.length + 1) true start text

/-- Reads a scalar from its first character on; every other character begins none. -/
def readScalar (mark : Char) : Reader μ Scalar := fun rest =>
  if mark = 'n' then (readWord "ull".toList rest).map fun rest => (.null, rest)
  else if mark = 't' then (readWord "rue".toList rest).map fun rest => (.bool true, rest)
  else if mark = 'f' then (readWord "alse".toList rest).map fun rest => (.bool false, rest)
  else if mark = '"' then (Quoted.read rest).map fun (text, rest) => (.string text, rest)
  else if mark = '-' then (Numeral.read true rest).map fun (number, rest) => (.number number, rest)
  else if mark.isDigit then
    (Numeral.read false (mark :: rest)).map fun (number, rest) => (.number number, rest)
  else .error .malformed

/-- One more item of an array; the items are gathered last to first. -/
def gatherItem (readPart : Reader μ Document) (items : List Document) : Reader μ (List Document) :=
  fun text => (readPart text).map fun (item, rest) => (item :: items, rest)

/-- One more member of an object; the members are gathered last to first. -/
def gatherMember (readPart : Reader μ Document) (members : List (String × Document))
    (name : String) : Reader μ (List (String × Document)) :=
  fun text => (readColon text).bind fun text =>
    (readPart text).map fun (value, rest) => ((name, value) :: members, rest)

/-- Reads one document in which arrays and objects nest at most as deep as the budget. -/
def readDocument : Nat → Reader μ Document
  | 0, text =>
    match skipBlanks text with
    | [] => .error .truncated
    | mark :: rest => (readScalar mark rest).map fun (scalar, rest) => (.scalar scalar, rest)
  | budget + 1, text =>
    match skipBlanks text with
    | [] => .error .truncated
    | mark :: rest =>
      if mark = '[' then
        (readItems (gatherItem (readDocument budget)) [] rest).map fun (items, rest) =>
          (.array items.reverse, rest)
      else if mark = '{' then
        (readMembers (gatherMember (readDocument budget)) [] rest).map fun (members, rest) =>
          (.object members.reverse, rest)
      else (readScalar mark rest).map fun (scalar, rest) => (.scalar scalar, rest)

/-- How deep arrays and objects may nest. -/
def nestingLimit : Nat := 127

/-- Reads a text to its end; only blanks may follow the value. -/
def readWhole (read : Reader μ α) (text : String) : Except (Failure μ) α :=
  match read text.toList with
  | .error failure => .error failure
  | .ok (value, rest) => if (skipBlanks rest).isEmpty then .ok value else .error .malformed

/-- The document that a text writes. -/
def Document.ofJson (text : String) : Except (Failure μ) Document :=
  readWhole (readDocument nestingLimit) text

end Json

end ContentPolicy
