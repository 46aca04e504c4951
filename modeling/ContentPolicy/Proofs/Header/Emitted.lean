import ContentPolicy.Proofs.Header.Acceptance

/-!
# What a header states

The directives that a policy emits, read off its entries by the kinds of their names, without the
checks. A policy with a header states exactly these directives, each of them well-formed. A
well-formed directive begins with a name that is not empty and contains neither separator.
-/

namespace ContentPolicy

open Directive

namespace Directive

/-- What an entry emits if it is accepted: a source list that is not empty with its words in
quotes where they need them, a switch that is on, and any sandbox, report address or integrity
requirement. -/
def emitted? (name : String) (value : Value) : Option Emission :=
  match kind? name with
  | some .list =>
    (value.tokens?.filter (· ≠ [])).map fun tokens => .sources name (tokens.map quote)
  | some .boolean => if value.isTruthy then some (.switch name) else none
  | some .sandbox => value.tokens?.map .sandbox
  | some .reportUri => value.text?.map .reportUri
  | some .requireSriFor => value.text?.map .requireSriFor
  | none => none

theorem sandboxEmission_of_known {tokens : List String}
    (known : ∀ token ∈ tokens, isSandboxToken token = true) :
    sandboxEmission tokens = .ok (.sandbox tokens) := by
  have noneUnknown : tokens.find? (fun token => !isSandboxToken token) = none := by
    rw [List.find?_eq_none]
    intro token member
    simp [known token member]
  rw [sandboxEmission, noneUnknown]

theorem emission_of_takes {name : String} {value : Value} (taken : Takes (kind? name) value) :
    emission name value = .ok (emitted? name value) := by
  simp only [emission, emitted?]
  cases found : kind? name with
  | none => simp [found, Takes] at taken
  | some kind =>
      rw [found] at taken
      cases kind with
      | boolean => rfl
      | list =>
          rcases Option.isSome_iff_exists.mp taken with ⟨tokens, held⟩
          cases tokens <;>
            simp [expectTokens_of_some held, held, Except.map, sourcesEmission, Option.filter]
      | sandbox =>
          rcases taken with ⟨tokens, held, known⟩
          simp [expectTokens_of_some held, held, Except.bind, Except.map,
            sandboxEmission_of_known known]
      | reportUri =>
          rcases taken with ⟨uri, held⟩
          simp [expectText_of_some held, held, Except.map]
      | requireSriFor =>
          rcases taken with ⟨requirement, held, known⟩
          simp [expectText_of_some held, held, Except.bind, Except.map, requireSriForEmission,
            known]

/-- Whether an emission can stem from an entry: its name is of its kind, a source list has words,
and the words of a sandbox and the integrity requirement are known. -/
def Emission.WellFormed : Emission → Prop
  | .sources name words => kind? name = some .list ∧ words ≠ []
  | .switch name => kind? name = some .boolean
  | .sandbox tokens => ∀ token ∈ tokens, isSandboxToken token = true
  | .reportUri _ => True
  | .requireSriFor requirement => isSriValue requirement = true

theorem wellFormed_of_emitted? {name : String} {value : Value} {emission : Emission}
    (taken : Takes (kind? name) value) (emitted : emitted? name value = some emission) :
    emission.WellFormed := by
  simp only [emitted?] at emitted
  cases found : kind? name with
  | none => simp [found] at emitted
  | some kind =>
      simp only [found] at taken emitted
      cases kind with
      | list =>
          simp only [Option.map_eq_some_iff, Option.filter_eq_some_iff] at emitted
          rcases emitted with ⟨tokens, ⟨-, filled⟩, rfl⟩
          exact ⟨found, by simpa using filled⟩
      | boolean =>
          simp only [Option.ite_none_right_eq_some, Option.some.injEq] at emitted
          rcases emitted with ⟨-, rfl⟩
          exact found
      | sandbox =>
          rcases taken with ⟨tokens, held, known⟩
          simp only [held, Option.map_some, Option.some.injEq] at emitted
          subst emitted
          exact known
      | reportUri =>
          simp only [Option.map_eq_some_iff] at emitted
          rcases emitted with ⟨uri, -, rfl⟩
          trivial
      | requireSriFor =>
          rcases taken with ⟨requirement, held, known⟩
          simp only [held, Option.map_some, Option.some.injEq] at emitted
          subst emitted
          exact known

def knownNames : List String :=
  listNames ++ booleanNames ++ [sandboxName, reportUriName, requireSriForName]

theorem mem_knownNames_of_kind? {name : String} {kind : Kind} (known : kind? name = some kind) :
    name ∈ knownNames := by
  simp only [knownNames, List.mem_append, List.mem_cons, List.not_mem_nil, or_false]
  cases kind with
  | list => exact .inl (.inl (kind?_eq_list_iff.mp known))
  | boolean => exact .inl (.inr (kind?_eq_boolean_iff.mp known))
  | sandbox => exact .inr (.inl (kind?_eq_sandbox_iff.mp known))
  | reportUri => exact .inr (.inr (.inl (kind?_eq_reportUri_iff.mp known)))
  | requireSriFor => exact .inr (.inr (.inr (kind?_eq_requireSriFor_iff.mp known)))

/-- No name is empty or contains a separator of headers. -/
theorem plain_of_mem_knownNames :
    ∀ name ∈ knownNames, name ≠ "" ∧ ' ' ∉ name.toList ∧ ';' ∉ name.toList := by
  decide

namespace Emission

/-- The name of the directive that an emission states. -/
def name : Emission → String
  | .sources name _ => name
  | .switch name => name
  | .sandbox _ => sandboxName
  | .reportUri _ => reportUriName
  | .requireSriFor _ => requireSriForName

/-- What the text of an emission holds behind the name: each word after one space. -/
def detail : Emission → List Char
  | .sources _ words => words.flatMap fun word => ' ' :: word.toList
  | .switch _ => []
  | .sandbox tokens => tokens.flatMap fun token => ' ' :: token.toList
  | .reportUri uri => ' ' :: uri.toList
  | .requireSriFor requirement => ' ' :: requirement.toList

theorem toList_intercalate_cons (first : String) (words : List String) :
    (" ".intercalate (first :: words)).toList =
      first.toList ++ words.flatMap fun word => ' ' :: word.toList := by
  induction words generalizing first with
  | nil => simp
  | cons word rest ih => simp [String.intercalate_cons_cons, ih]

theorem toList_text (emission : Emission) :
    emission.text.toList = emission.name.toList ++ emission.detail := by
  cases emission with
  | sources name words => exact toList_intercalate_cons name words
  | switch own => simp [text, name, detail]
  | sandbox tokens => exact toList_intercalate_cons sandboxName tokens
  | reportUri uri => simp [text, name, detail]
  | requireSriFor requirement => simp [text, name, detail]

theorem WellFormed.name_mem_knownNames {emission : Emission} (wellFormed : emission.WellFormed) :
    emission.name ∈ knownNames := by
  cases emission with
  | sources name words => exact mem_knownNames_of_kind? wellFormed.1
  | switch name => exact mem_knownNames_of_kind? wellFormed
  | _ => simp [knownNames, name]

theorem WellFormed.text_ne_empty {emission : Emission} (wellFormed : emission.WellFormed) :
    emission.text ≠ "" := by
  intro bare
  have nothing := toList_text emission
  rw [bare, String.toList_empty, eq_comm, List.append_eq_nil_iff] at nothing
  exact (plain_of_mem_knownNames _ wellFormed.name_mem_knownNames).1
    (String.toList_eq_nil_iff.mp nothing.1)

end Emission

end Directive

@[simp]
theorem headerText_nil : headerText [] = "" := rfl

@[simp]
theorem headerText_singleton (emission : Emission) : headerText [emission] = emission.text := by
  simp [headerText]

theorem headerText_eq_empty_iff {emissions : List Emission}
    (wellFormed : ∀ emission ∈ emissions, emission.WellFormed) :
    headerText emissions = "" ↔ emissions = [] := by
  cases emissions with
  | nil => simp
  | cons first rest =>
      have filled := (wellFormed first (by simp)).text_ne_empty
      cases rest with
      | nil => simpa using filled
      | cons second others =>
          simp [headerText, String.intercalate_cons_cons, String.append_eq_empty_iff, filled]

namespace Policy

/-- The directives that a policy emits, in order. -/
def emitted (policy : Policy) : List Emission :=
  policy.entries.filterMap fun entry => emitted? entry.1 entry.2

theorem takes_of_compiles {policy : Policy} (compiles : policy.Compiles) :
    ∀ entry ∈ policy.entries, Takes (kind? entry.1) entry.2 := by
  intro entry member
  exact compiles_iff.mp compiles entry.1 entry.2 (OrderedMap.get?_eq_some_iff.mpr member)

theorem emissionsOf_of_takes {entries : List (String × Value)}
    (taken : ∀ entry ∈ entries, Takes (kind? entry.1) entry.2) :
    emissionsOf entries = .ok (entries.filterMap fun entry => emitted? entry.1 entry.2) := by
  induction entries with
  | nil => rfl
  | cons entry rest ih =>
      rw [List.forall_mem_cons] at taken
      rw [emissionsOf, emission_of_takes taken.1, ih taken.2, List.filterMap_cons]
      cases emitted? entry.1 entry.2 <;> rfl

/-- A policy with a header is written with the directives that it emits. -/
theorem compile_of_compiles {policy : Policy} (compiles : policy.Compiles) :
    policy.compile =
      ⟨.ok (headerText policy.emitted), [.compiled policy.emitted.length policy.size]⟩ := by
  have emissions := emissionsOf_of_takes (takes_of_compiles compiles)
  simp only [compile, Policy.emissions, emissions]
  rfl

theorem value_compile_eq_ok_iff {policy : Policy} {text : String} :
    policy.compile.value = .ok text ↔ policy.Compiles ∧ text = headerText policy.emitted := by
  constructor
  · intro compiled
    have compiles : policy.Compiles := ⟨text, compiled⟩
    rw [compile_of_compiles compiles, Except.ok.injEq] at compiled
    exact ⟨compiles, compiled.symm⟩
  · rintro ⟨compiles, rfl⟩
    rw [compile_of_compiles compiles]

theorem wellFormed_of_mem_emitted {policy : Policy} (compiles : policy.Compiles)
    {emission : Emission} (member : emission ∈ policy.emitted) : emission.WellFormed := by
  rcases List.mem_filterMap.mp member with ⟨entry, entryMember, emitted⟩
  exact wellFormed_of_emitted? (takes_of_compiles compiles entry entryMember) emitted

end Policy

end ContentPolicy
