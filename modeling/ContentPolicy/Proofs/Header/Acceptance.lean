import ContentPolicy.OrderedMap.Lemmas
import ContentPolicy.Policy.Header

/-!
# Which policies have a header

A directive is accepted or refused by its name and its value alone. `Takes` says which values the
directives of each kind accept, and a policy has a header exactly if each of its directives is
accepted, that is, if each of its entries would have a header as a policy of its own.
-/

namespace ContentPolicy

open Directive

namespace Directive

/-- Whether the directives of a kind accept a value; a name without a kind accepts none. -/
def Takes : Option Kind → Value → Prop
  | some .list, value => value.isCollection = true
  | some .boolean, _ => True
  | some .sandbox, value =>
      ∃ tokens, value.tokens? = some tokens ∧ ∀ token ∈ tokens, isSandboxToken token = true
  | some .reportUri, value => ∃ text, value.text? = some text
  | some .requireSriFor, value => ∃ text, value.text? = some text ∧ isSriValue text = true
  | none, _ => False

theorem sandboxEmission_ok_iff {tokens : List String} :
    (∃ emitted, sandboxEmission tokens = .ok emitted) ↔
      ∀ token ∈ tokens, isSandboxToken token = true := by
  simp only [sandboxEmission]
  split
  · next token unknown =>
      have member := List.mem_of_find?_eq_some unknown
      have refused := List.find?_some unknown
      refine iff_of_false (by simp) fun accepted => ?_
      simp [accepted token member] at refused
  · next allKnown =>
      refine iff_of_true ⟨_, rfl⟩ fun token member => ?_
      simpa using List.find?_eq_none.mp allKnown token member

theorem requireSriForEmission_ok_iff {requirement : String} :
    (∃ emitted, requireSriForEmission requirement = .ok emitted) ↔
      isSriValue requirement = true := by
  simp only [requireSriForEmission]
  split <;> simp_all

theorem expectTokens_of_some {name : String} {value : Value} {tokens : List String}
    (held : value.tokens? = some tokens) : expectTokens name value = .ok tokens := by
  simp [expectTokens, held]

theorem expectTokens_of_none {name : String} {value : Value} (missing : value.tokens? = none) :
    expectTokens name value = .error (.notListLike name value.form) := by
  simp [expectTokens, missing]

theorem expectText_of_some {name : String} {value : Value} {text : String}
    (held : value.text? = some text) : expectText name value = .ok text := by
  simp [expectText, held]

theorem expectText_of_none {name : String} {value : Value} (missing : value.text? = none) :
    expectText name value = .error (.notString name value.form) := by
  simp [expectText, missing]

/-- A directive is accepted exactly if the kind of its name takes its value. -/
theorem emission_ok_iff {name : String} {value : Value} :
    (∃ emitted, emission name value = .ok emitted) ↔ Takes (kind? name) value := by
  simp only [emission]
  cases kind? name with
  | none => simp [Takes]
  | some kind =>
      cases kind with
      | boolean => simp [Takes]
      | list =>
          cases held : value.tokens? with
          | none => simp [Takes, Value.isCollection, expectTokens_of_none held, held, Except.map]
          | some tokens =>
              simp [Takes, Value.isCollection, expectTokens_of_some held, held, Except.map]
      | sandbox =>
          cases held : value.tokens? with
          | none => simp [Takes, expectTokens_of_none held, held, Except.bind]
          | some tokens =>
              simp only [Takes, held, expectTokens_of_some held, Except.bind, Option.some.injEq,
                exists_eq_left', ← sandboxEmission_ok_iff]
              cases sandboxEmission tokens <;> simp [Except.map]
      | reportUri =>
          cases held : value.text? with
          | none => simp [Takes, expectText_of_none held, held, Except.map]
          | some text => simp [Takes, expectText_of_some held, held, Except.map]
      | requireSriFor =>
          cases held : value.text? with
          | none => simp [Takes, expectText_of_none held, held, Except.bind]
          | some text =>
              simp only [Takes, held, expectText_of_some held, Except.bind, Option.some.injEq,
                exists_eq_left', ← requireSriForEmission_ok_iff]
              cases requireSriForEmission text <;> simp [Except.map]

end Directive

namespace Policy

/-- Whether a policy has a header. -/
def Compiles (policy : Policy) : Prop := ∃ text, policy.compile.value = .ok text

/-- The policy with a single entry. -/
def single (name : String) (value : Value) : Policy := OrderedMap.empty.insert name value

theorem emissionsOf_ok_iff {entries : List (String × Value)} :
    (∃ emitted, emissionsOf entries = .ok emitted) ↔
      ∀ entry ∈ entries, Takes (kind? entry.1) entry.2 := by
  induction entries with
  | nil => simp [emissionsOf]
  | cons entry rest ih =>
      rw [List.forall_mem_cons, ← emission_ok_iff, ← ih, emissionsOf]
      cases emission entry.1 entry.2 with
      | error cause => simp
      | ok first =>
          cases emissionsOf rest <;> simp [Except.map]

/-- A policy has a header exactly if the kind of every name takes the value under it. -/
theorem compiles_iff {policy : Policy} :
    policy.Compiles ↔ ∀ name value, policy.get? name = some value → Takes (kind? name) value := by
  have emitted : policy.Compiles ↔ ∃ emitted, policy.emissions = .ok emitted := by
    simp only [Compiles, value_compile, header]
    cases policy.emissions <;> simp [Except.map]
  rw [emitted, emissions, emissionsOf_ok_iff]
  constructor
  · intro accepted name value held
    exact accepted (name, value) (OrderedMap.get?_eq_some_iff.mp held)
  · intro accepted entry member
    exact accepted entry.1 entry.2 (OrderedMap.get?_eq_some_iff.mpr member)

theorem get?_single (name other : String) (value : Value) :
    (single name value).get? other = if other = name then some value else none := by
  rw [single, OrderedMap.get?_insert, OrderedMap.get?_empty]

theorem compiles_single_iff {name : String} {value : Value} :
    (single name value).Compiles ↔ Takes (kind? name) value := by
  simp [compiles_iff, get?_single]

end Policy

end ContentPolicy
