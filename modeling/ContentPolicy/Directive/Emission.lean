import ContentPolicy.Directive.Error
import ContentPolicy.Directive.Token

/-!
# Emitted directives

An emission is a directive that has passed its checks, with all that a header says of it. A
directive either is refused, or emits nothing, or has one emission. `Emission.text` writes it.
-/

namespace ContentPolicy

namespace Directive

/-- A directive as a header states it. -/
inductive Emission where
  /-- A source list with at least one word, each word in quotes if it needs them. -/
  | sources (name : String) (words : List String)
  | switch (name : String)
  | sandbox (tokens : List String)
  | reportUri (uri : String)
  | requireSriFor (requirement : String)
deriving DecidableEq

/-- The fragment of a header that states a directive: its name, and each word after one space. -/
def Emission.text : Emission → String
  | .sources name words => " ".intercalate (name :: words)
  | .switch name => name
  | .sandbox tokens => " ".intercalate (sandboxName :: tokens)
  | .reportUri uri => reportUriName ++ " " ++ uri
  | .requireSriFor requirement => requireSriForName ++ " " ++ requirement

/-- The emission of a source list, whose words take quotes; an empty list emits nothing. -/
def sourcesEmission (name : String) : List String → Option Emission
  | [] => none
  | tokens => some (.sources name (tokens.map quote))

/-- The emission of the sandbox; its first unknown flag refuses it. -/
def sandboxEmission (tokens : List String) : Except Error Emission :=
  match tokens.find? fun token => !isSandboxToken token with
  | some token => .error (.unknownSandboxValue token)
  | none => .ok (.sandbox tokens)

def requireSriForEmission (requirement : String) : Except Error Emission :=
  if isSriValue requirement then .ok (.requireSriFor requirement)
  else .error (.unknownSriValue requirement)

def expectTokens (name : String) (value : Value) : Except Error (List String) :=
  match value.tokens? with
  | some tokens => .ok tokens
  | none => .error (.notListLike name value.form)

def expectText (name : String) (value : Value) : Except Error String :=
  match value.text? with
  | some text => .ok text
  | none => .error (.notString name value.form)

/-- What a directive emits with a value, judged by the kind of its name. -/
def emission (name : String) (value : Value) : Except Error (Option Emission) :=
  match kind? name with
  | some .list => (expectTokens name value).map (sourcesEmission name)
  | some .boolean => .ok (if value.isTruthy then some (.switch name) else none)
  | some .sandbox => (expectTokens name value).bind fun tokens => (sandboxEmission tokens).map some
  | some .reportUri => (expectText name value).map fun uri => some (.reportUri uri)
  | some .requireSriFor =>
    (expectText name value).bind fun requirement => (requireSriForEmission requirement).map some
  | none => .error (.unknownDirective name)

/-- A refused directive is named by the cause, also where the cause holds a token only. -/
theorem directive_of_emission_eq_error {name : String} {value : Value} {cause : Error}
    (refused : emission name value = .error cause) : cause.directive = name := by
  unfold emission at refused
  split at refused
  · next =>
      unfold expectTokens at refused
      split at refused <;> simp [Except.map] at refused
      simp [← refused, Error.directive]
  · simp at refused
  · next isSandbox =>
      have named := kind?_eq_sandbox_iff.mp isSandbox
      unfold expectTokens at refused
      split at refused
      · simp only [Except.bind, sandboxEmission] at refused
        split at refused <;> simp [Except.map] at refused
        simp [← refused, Error.directive, named]
      · simp [Except.bind] at refused
        simp [← refused, Error.directive]
  · next =>
      unfold expectText at refused
      split at refused <;> simp [Except.map] at refused
      simp [← refused, Error.directive]
  · next isRequireSriFor =>
      have named := kind?_eq_requireSriFor_iff.mp isRequireSriFor
      unfold expectText at refused
      split at refused
      · simp only [Except.bind, requireSriForEmission] at refused
        split at refused <;> simp [Except.map] at refused
        simp [← refused, Error.directive, named]
      · simp [Except.bind] at refused
        simp [← refused, Error.directive]
  · simp only [Except.error.injEq] at refused
    simp [← refused, Error.directive]

end Directive

end ContentPolicy
