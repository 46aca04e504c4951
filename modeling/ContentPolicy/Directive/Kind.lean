/-!
# Directive kinds

The names of the directives that a policy may hold, and what each kind of directive takes for a
value. A name in none of the tables belongs to no kind.
-/

namespace ContentPolicy

namespace Directive

/-- What a directive takes for a value. -/
inductive Kind where
  | list
  | boolean
  | sandbox
  | reportUri
  | requireSriFor
deriving DecidableEq, Repr

def listNames : List String :=
  ["connect-src", "child-src", "default-src", "font-src", "frame-src", "img-src", "manifest-src",
    "media-src", "object-src", "script-src", "style-src", "worker-src", "form-action",
    "frame-ancestors", "base-uri", "plugin-types"]

/-- The directives that are switched on or left out. -/
def booleanNames : List String := ["upgrade-insecure-requests", "block-all-mixed-content"]

def sandboxName : String := "sandbox"

def reportUriName : String := "report-uri"

def requireSriForName : String := "require-sri-for"

/-- The kind of the directive of a name; names are compared exactly. -/
def kind? (name : String) : Option Kind :=
  if name ∈ listNames then some .list
  else if name ∈ booleanNames then some .boolean
  else if name = sandboxName then some .sandbox
  else if name = reportUriName then some .reportUri
  else if name = requireSriForName then some .requireSriFor
  else none

theorem kind?_eq_list_iff {name : String} : kind? name = some .list ↔ name ∈ listNames := by
  unfold kind?
  repeat' split
  all_goals simp_all

theorem kind?_eq_sandbox_iff {name : String} : kind? name = some .sandbox ↔ name = sandboxName := by
  constructor
  · intro isSandbox
    unfold kind? at isSandbox
    repeat' split at isSandbox
    all_goals simp_all
  · rintro rfl
    decide

theorem kind?_eq_reportUri_iff {name : String} :
    kind? name = some .reportUri ↔ name = reportUriName := by
  constructor
  · intro isReportUri
    unfold kind? at isReportUri
    repeat' split at isReportUri
    all_goals simp_all
  · rintro rfl
    decide

theorem kind?_eq_requireSriFor_iff {name : String} :
    kind? name = some .requireSriFor ↔ name = requireSriForName := by
  constructor
  · intro isRequireSriFor
    unfold kind? at isRequireSriFor
    repeat' split at isRequireSriFor
    all_goals simp_all
  · rintro rfl
    decide

theorem kind?_eq_boolean_iff {name : String} :
    kind? name = some .boolean ↔ name ∈ booleanNames := by
  constructor
  · intro isBoolean
    unfold kind? at isBoolean
    repeat' split at isBoolean
    all_goals simp_all
  · intro known
    simp only [booleanNames, List.mem_cons, List.not_mem_nil, or_false] at known
    rcases known with rfl | rfl <;> decide

end Directive

end ContentPolicy
