import ContentPolicy.Proofs.Header.Acceptance
import ContentPolicy.Proofs.Merge.Value
import ContentPolicy.Proofs.Policy.RoundTrip

/-!
# Headers of policies that look alike

A header is written from what a value shows: a flag, a text, or the tokens of a collection. Whether
the tokens come from a list, a set or a tuple is seen in one place only, the message about a
collection that stands where a text is wanted. A policy can therefore be stored in JSON, where every
collection becomes a list, without a change to its header.
-/

namespace ContentPolicy

open Directive

namespace Directive

/-- Whether two values are equal, or collections with the same tokens in the same order. -/
inductive Value.Alike : Value → Value → Prop where
  | same (value : Value) : Value.Alike value value
  | tokens {left right : Value} {tokens : List String} (leftHeld : left.tokens? = some tokens)
      (rightHeld : right.tokens? = some tokens) : Value.Alike left right

/-- Whether two causes are equal, or name two forms of a collection in the place of a text. -/
inductive Error.Alike : Error → Error → Prop where
  | same (cause : Error) : Error.Alike cause cause
  | notString (directive : String) {left right : Form} (leftCollects : left ≠ .bool ∧ left ≠ .string)
      (rightCollects : right ≠ .bool ∧ right ≠ .string) :
      Error.Alike (.notString directive left) (.notString directive right)

/-- Whether two results are the same, or fail for causes that are alike. -/
inductive AlikeResults {α : Type} : Except Error α → Except Error α → Prop where
  | ok (result : α) : AlikeResults (.ok result) (.ok result)
  | error {left right : Error} (alike : left.Alike right) : AlikeResults (.error left) (.error right)

theorem AlikeResults.refl {α : Type} (result : Except Error α) : AlikeResults result result := by
  cases result with
  | error cause => exact .error (.same cause)
  | ok value => exact .ok value

theorem AlikeResults.map {α β : Type} {left right : Except Error α}
    (alike : AlikeResults left right) (f : α → β) : AlikeResults (left.map f) (right.map f) := by
  cases alike with
  | ok result => exact .ok (f result)
  | error alike => exact .error alike

theorem AlikeResults.bind {α β : Type} {left right : Except Error α}
    (alike : AlikeResults left right) (next : α → Except Error β) :
    AlikeResults (left.bind next) (right.bind next) := by
  cases alike with
  | ok result => exact .refl (next result)
  | error alike => exact .error alike

theorem AlikeResults.eq_ok_iff {α : Type} {left right : Except Error α}
    (alike : AlikeResults left right) (result : α) : left = .ok result ↔ right = .ok result := by
  cases alike with
  | ok value => exact Iff.rfl
  | error _ => simp

theorem Error.Alike.directive_eq {left right : Error} (alike : left.Alike right) :
    left.directive = right.directive := by
  cases alike with
  | same _ => rfl
  | notString _ _ _ => rfl

namespace Value

theorem isTruthy_of_tokens {value : Value} {tokens : List String}
    (held : value.tokens? = some tokens) : value.isTruthy = !tokens.isEmpty := by
  cases value with
  | bool flag => cases held
  | string text => cases held
  | list own => cases held; rfl
  | set own => cases held; rfl
  | tuple own => cases held; rfl

theorem text?_of_tokens {value : Value} {tokens : List String}
    (held : value.tokens? = some tokens) : value.text? = none :=
  text?_of_collection (isCollection_iff.mpr ⟨tokens, held⟩)

theorem form_of_tokens {value : Value} {tokens : List String}
    (held : value.tokens? = some tokens) : value.form ≠ .bool ∧ value.form ≠ .string := by
  cases value with
  | bool flag => cases held
  | string text => cases held
  | _ => exact ⟨nofun, nofun⟩

theorem alike_listed (value : Value) : value.Alike value.listed := by
  cases value with
  | bool flag => exact .same _
  | string text => exact .same _
  | list tokens => exact .same _
  | set tokens => exact .tokens rfl rfl
  | tuple tokens => exact .tokens rfl rfl

end Value

theorem expectText_alike {left right : Value} {tokens : List String}
    (leftHeld : left.tokens? = some tokens) (rightHeld : right.tokens? = some tokens)
    (name : String) : AlikeResults (expectText name left) (expectText name right) := by
  rw [expectText_of_none (Value.text?_of_tokens leftHeld),
    expectText_of_none (Value.text?_of_tokens rightHeld)]
  apply AlikeResults.error
  exact .notString name (Value.form_of_tokens leftHeld) (Value.form_of_tokens rightHeld)

/-- Directives with alike values emit the same or are refused for alike causes. -/
theorem emission_alike {left right : Value} (alike : left.Alike right) (name : String) :
    AlikeResults (emission name left) (emission name right) := by
  cases alike with
  | same => exact .refl _
  | tokens leftHeld rightHeld =>
      have sameTokens : expectTokens name left = expectTokens name right := by
        rw [expectTokens_of_some leftHeld, expectTokens_of_some rightHeld]
      have alikeTexts := expectText_alike leftHeld rightHeld name
      simp only [emission]
      cases kind? name with
      | none => exact .refl _
      | some kind =>
          cases kind with
          | list =>
              simp only [sameTokens]
              exact .refl _
          | boolean =>
              simp only [Value.isTruthy_of_tokens leftHeld, Value.isTruthy_of_tokens rightHeld]
              exact .refl _
          | sandbox =>
              simp only [sameTokens]
              exact .refl _
          | reportUri => exact alikeTexts.map _
          | requireSriFor => exact alikeTexts.bind _

end Directive

namespace Policy

/-- Whether two entries have one name and alike values. -/
def AlikeEntries (left right : String × Value) : Prop := left.1 = right.1 ∧ left.2.Alike right.2

/-- Whether two policies have the same names in order, with alike values under each. -/
def Alike (left right : Policy) : Prop := List.Forall₂ AlikeEntries left.entries right.entries

theorem alike_listed (policy : Policy) : policy.Alike policy.listed := by
  rw [Alike, listed, List.forall₂_map_right_iff, List.forall₂_same]
  intro entry _
  exact ⟨rfl, entry.2.alike_listed⟩

theorem emissionsOf_alike {left right : List (String × Value)}
    (alike : List.Forall₂ AlikeEntries left right) :
    AlikeResults (emissionsOf left) (emissionsOf right) := by
  induction alike with
  | nil => exact .refl _
  | @cons entry other rest others first _ ih =>
      rcases first with ⟨sameName, alikeValues⟩
      have own := emission_alike alikeValues entry.1
      simp only [emissionsOf, ← sameName]
      generalize emission entry.1 entry.2 = result at own ⊢
      generalize emission entry.1 other.2 = otherResult at own ⊢
      cases own with
      | error alikeCauses => exact .error alikeCauses
      | ok emitted => exact ih.map _

theorem compile_alike {left right : Policy} (alike : left.Alike right) :
    AlikeResults left.compile.value right.compile.value ∧
      left.compile.records = right.compile.records := by
  have emitted : AlikeResults left.emissions right.emissions := emissionsOf_alike alike
  have sameSize : left.size = right.size := alike.length_eq
  simp only [compile]
  generalize left.emissions = result at emitted ⊢
  generalize right.emissions = otherResult at emitted ⊢
  cases emitted with
  | error alikeCauses => exact ⟨.error alikeCauses, rfl⟩
  | ok emissions =>
      refine ⟨.ok _, ?_⟩
      rw [sameSize]

/-- Policies that show the same are written alike: both with the same header and the same record, or
both not at all, for causes that name the same directive and are equal up to the form of a
collection in the place of a text. A policy and what is read back from its JSON text show the same,
so both have the same header or none. -/
theorem compile_sees_tokens :
    (∀ left right : Policy, left.Alike right →
      AlikeResults left.compile.value right.compile.value ∧
        left.compile.records = right.compile.records) ∧
      (∀ left right : Directive.Error, left.Alike right → left.directive = right.directive) ∧
      ∀ policy : Policy,
        ofJson policy.toJson = .ok policy.listed ∧
          AlikeResults policy.compile.value policy.listed.compile.value ∧
          (∀ text, policy.compile.value = .ok text ↔ policy.listed.compile.value = .ok text) ∧
          (policy.Compiles ↔ policy.listed.Compiles) := by
  refine ⟨fun _ _ => compile_alike, fun _ _ => Error.Alike.directive_eq, fun policy => ?_⟩
  have alike := (compile_alike policy.alike_listed).1
  refine ⟨policy.ofJson_toJson, alike, alike.eq_ok_iff, ?_⟩
  exact exists_congr alike.eq_ok_iff

-- The set of a report address is a list when it is read back, and the message says so.
example :
    (single "report-uri" (.set .empty)).compile.value = .error (.notString "report-uri" .set) ∧
      (single "report-uri" (.set .empty)).listed.compile.value =
        .error (.notString "report-uri" .list) := by
  decide

end Policy

end ContentPolicy
