import ContentPolicy.TokenSet

/-!
# Directive values

What a policy holds under a directive's name: a flag, a text, or a collection of tokens that keeps
its order (a list or a tuple) or does not (a set). The kinds of directives ask for a flag, a text or
a collection; which collection it is never shows in a header, only when policies are merged.
-/

namespace ContentPolicy

namespace Directive

inductive Form where
  | bool
  | string
  | list
  | set
  | tuple
deriving DecidableEq, Repr

/-- The word for a form in messages. -/
def Form.name : Form → String
  | .bool => "bool"
  | .string => "string"
  | .list => "list"
  | .set => "set"
  | .tuple => "tuple"

/-- A value of a directive. -/
inductive Value where
  | bool (flag : Bool)
  | string (text : String)
  | list (tokens : List String)
  | set (tokens : TokenSet)
  | tuple (tokens : List String)
deriving DecidableEq

namespace Value

def form : Value → Form
  | .bool _ => .bool
  | .string _ => .string
  | .list _ => .list
  | .set _ => .set
  | .tuple _ => .tuple

/-- The tokens of a collection in the order in which they are written. -/
def tokens? : Value → Option (List String)
  | .bool _ => none
  | .string _ => none
  | .list tokens => some tokens
  | .set tokens => some tokens.tokens
  | .tuple tokens => some tokens

def isCollection (value : Value) : Bool := value.tokens?.isSome

def text? : Value → Option String
  | .string text => some text
  | _ => none

/-- Whether a value switches something on: a set flag, or anything that is not empty. -/
def isTruthy : Value → Bool
  | .bool flag => flag
  | .string text => !text.isEmpty
  | .list tokens => !tokens.isEmpty
  | .set tokens => !tokens.tokens.isEmpty
  | .tuple tokens => !tokens.isEmpty

/-- A value with an update laid over it. A collection takes up the tokens of an update that is a
collection, in its own form; in all other cases the update stands alone. -/
def mergeWith (existing update : Value) : Value :=
  match existing, update.tokens? with
  | .list tokens, some extra => .list (tokens ++ extra)
  | .tuple tokens, some extra => .tuple (tokens ++ extra)
  | .set tokens, some extra => .set (tokens.insertMany extra)
  | _, _ => update

end Value

end Directive

end ContentPolicy
