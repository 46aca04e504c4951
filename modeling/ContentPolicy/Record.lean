import ContentPolicy.Directive.Error
import ContentPolicy.Disposition
import ContentPolicy.Exchange.Method

/-!
# Records

What is noted while policies are compiled, overridden and added to responses. A record holds what
happened; its level and its wording are read off it. `Logged` is a value together with the records
made on the way to it, first to last.
-/

namespace ContentPolicy

inductive Level where
  | trace
  | debug
  | error
deriving DecidableEq, Repr

def Level.name : Level → String
  | .trace => "trace"
  | .debug => "debug"
  | .error => "error"

/-- Something that happened. -/
inductive Record where
  /-- A policy was written with some of its directives emitted. -/
  | compiled (emitted total : Nat)
  /-- An override took the place of the base policy. -/
  | baseReplaced (directives : Nat)
  /-- A service was set up with the given headers. -/
  | enabled (enforced reportOnly : Bool)
  /-- A header was there already. -/
  | alreadySet (disposition : Disposition) (page : String)
  /-- A header was left out because its policy is invalid. -/
  | suppressed (disposition : Disposition) (method : Method) (page : String)
      (cause : Directive.Error)
deriving DecidableEq

namespace Record

def level : Record → Level
  | .compiled _ _ => .trace
  | .baseReplaced _ => .debug
  | .enabled _ _ => .debug
  | .alreadySet _ _ => .trace
  | .suppressed _ _ _ _ => .error

def truth (value : Bool) : String := if value then "true" else "false"

def message : Record → String
  | .compiled emitted total =>
    "Compiled CSP with " ++ emitted.repr ++ " of " ++ total.repr ++ " directives emitted"
  | .baseReplaced directives =>
    "CSP override replaces base policy (" ++ directives.repr ++ " directives)"
  | .enabled enforced reportOnly =>
    "CSP middleware enabled (enforced: " ++ truth enforced ++ ", report-only: " ++
      truth reportOnly ++ ")"
  | .alreadySet disposition page =>
    disposition.header ++ " already set for " ++ page ++ ", leaving it alone"
  | .suppressed _ method page cause =>
    "Invalid CSP on page " ++ method.name ++ " " ++ page ++ ": " ++ cause.message

end Record

/-- A value and the records made on the way to it. -/
structure Logged (α : Type) where
  value : α
  records : List Record
deriving DecidableEq

namespace Logged

variable {α β : Type}

def quiet (value : α) : Logged α := ⟨value, []⟩

/-- A second computation after a first, with the records of both. -/
def andThen (first : Logged α) (second : α → Logged β) : Logged β :=
  ⟨(second first.value).value, first.records ++ (second first.value).records⟩

instance : Monad Logged where
  pure := quiet
  bind := andThen

@[simp]
theorem value_pure (value : α) : (pure value : Logged α).value = value := rfl

@[simp]
theorem records_pure (value : α) : (pure value : Logged α).records = [] := rfl

@[simp]
theorem value_bind (first : Logged α) (second : α → Logged β) :
    (first >>= second).value = (second first.value).value := rfl

@[simp]
theorem records_bind (first : Logged α) (second : α → Logged β) :
    (first >>= second).records = first.records ++ (second first.value).records := rfl

end Logged

end ContentPolicy
