import ContentPolicy.Proofs.Header.Emitted

/-!
# Headers put together from their entries

Each entry of a policy has a header of its own, the one it would have as the only entry. The header
of the policy joins those that are not empty, and the policy fails exactly as its first failing
entry does, whatever stands behind it. No directive is written as the empty text, so a piece is
missing from the header only if its entry emits nothing.
-/

namespace ContentPolicy

open Directive

namespace Directive

/-- Whether an entry is accepted without emitting anything: an empty source list, or a switch that
is off. -/
def Silent (name : String) (value : Value) : Prop :=
  kind? name = some .list ∧ value.tokens? = some [] ∨
    kind? name = some .boolean ∧ value.isTruthy = false

theorem Silent.takes {name : String} {value : Value} (silent : Silent name value) :
    Takes (kind? name) value := by
  rcases silent with ⟨isList, held⟩ | ⟨isBoolean, -⟩
  · simp [isList, Takes, Value.isCollection, held]
  · simp [isBoolean, Takes]

theorem emitted?_eq_none_iff {name : String} {value : Value} (taken : Takes (kind? name) value) :
    emitted? name value = none ↔ Silent name value := by
  simp only [emitted?, Silent]
  cases found : kind? name with
  | none => simp [found, Takes] at taken
  | some kind =>
      rw [found] at taken
      cases kind with
      | boolean => simp
      | list =>
          rcases Option.isSome_iff_exists.mp taken with ⟨tokens, held⟩
          cases tokens <;> simp [held, Option.filter]
      | sandbox =>
          rcases taken with ⟨tokens, held, -⟩
          simp [held]
      | reportUri =>
          rcases taken with ⟨uri, held⟩
          simp [held]
      | requireSriFor =>
          rcases taken with ⟨requirement, held, -⟩
          simp [held]

theorem exists_error_of_not_takes {name : String} {value : Value}
    (refused : ¬Takes (kind? name) value) : ∃ cause, emission name value = .error cause := by
  rw [← emission_ok_iff] at refused
  cases result : emission name value with
  | error cause => exact ⟨cause, rfl⟩
  | ok emitted => exact absurd ⟨emitted, result⟩ refused

end Directive

namespace Policy

/-- The headers of the single entries, in order, without those that are empty. -/
def pieces (policy : Policy) : List String :=
  (policy.entries.filterMap fun entry =>
    (single entry.1 entry.2).compile.value.toOption).filter (· ≠ "")

theorem value_compile_single (name : String) (value : Value) :
    (single name value).compile.value =
      (emission name value).map fun emitted => headerText emitted.toList := by
  have entries : (single name value).entries = [(name, value)] := rfl
  rw [value_compile, header, emissions, entries]
  simp only [emissionsOf]
  cases emission name value <;> simp [Except.map]

theorem value_compile_single_of_takes {name : String} {value : Value}
    (taken : Takes (kind? name) value) :
    (single name value).compile.value = .ok (headerText (emitted? name value).toList) := by
  rw [value_compile_single, emission_of_takes taken]
  rfl

/-- The pieces of the header are the texts of the directives that are emitted. -/
theorem pieces_of_compiles {policy : Policy} (compiles : policy.Compiles) :
    policy.pieces = policy.emitted.map Emission.text := by
  have taken := takes_of_compiles compiles
  simp only [pieces, emitted]
  generalize policy.entries = entries at taken ⊢
  induction entries with
  | nil => rfl
  | cons entry rest ih =>
      rw [List.forall_mem_cons] at taken
      have own := value_compile_single_of_takes taken.1
      rw [List.filterMap_cons, List.filterMap_cons, own]
      cases emitted : emitted? entry.1 entry.2 with
      | none => simpa [Except.toOption] using ih taken.2
      | some emission =>
          -- Only this keeps the piece: a directive written as nothing would drop out.
          have filled := (wellFormed_of_emitted? taken.1 emitted).text_ne_empty
          simpa [Except.toOption, filled] using ih taken.2

theorem compiles_iff_forall_entries {policy : Policy} :
    policy.Compiles ↔ ∀ entry ∈ policy.entries, (single entry.1 entry.2).Compiles := by
  simp only [compiles_single_iff]
  constructor
  · exact takes_of_compiles
  · intro taken
    rw [compiles_iff]
    intro name value held
    exact taken (name, value) (OrderedMap.get?_eq_some_iff.mp held)

theorem value_compile_eq_empty_iff {policy : Policy} :
    policy.compile.value = .ok "" ↔ ∀ entry ∈ policy.entries, Silent entry.1 entry.2 := by
  rw [value_compile_eq_ok_iff, eq_comm]
  constructor
  · rintro ⟨compiles, bare⟩ entry member
    rw [headerText_eq_empty_iff fun _ => wellFormed_of_mem_emitted compiles] at bare
    rw [← emitted?_eq_none_iff (takes_of_compiles compiles entry member)]
    exact List.filterMap_eq_nil_iff.mp bare entry member
  · intro silent
    have compiles : policy.Compiles := by
      rw [compiles_iff_forall_entries]
      intro entry member
      exact compiles_single_iff.mpr (silent entry member).takes
    refine ⟨compiles, ?_⟩
    have nothing : policy.emitted = [] := by
      rw [emitted, List.filterMap_eq_nil_iff]
      intro entry member
      exact (emitted?_eq_none_iff (silent entry member).takes).mpr (silent entry member)
    rw [nothing, headerText_nil]

/-- The first entry that is refused refuses all entries, for its own cause. -/
theorem emissionsOf_of_first_refused {before after : List (String × Value)}
    {entry : String × Value} {cause : Directive.Error}
    (taken : ∀ earlier ∈ before, Takes (kind? earlier.1) earlier.2)
    (refused : emission entry.1 entry.2 = .error cause) :
    emissionsOf (before ++ entry :: after) = .error cause := by
  induction before with
  | nil => rw [List.nil_append, emissionsOf, refused]
  | cons first rest ih =>
      rw [List.forall_mem_cons] at taken
      rw [List.cons_append, emissionsOf, emission_of_takes taken.1, ih taken.2]
      rfl

theorem compile_of_first_refused {policy : Policy} {before after : List (String × Value)}
    {entry : String × Value} {cause : Directive.Error}
    (parts : policy.entries = before ++ entry :: after)
    (taken : ∀ earlier ∈ before, Takes (kind? earlier.1) earlier.2)
    (refused : emission entry.1 entry.2 = .error cause) : policy.compile = ⟨.error cause, []⟩ := by
  have stopped : emissionsOf (before ++ entry :: after) = .error cause :=
    emissionsOf_of_first_refused taken refused
  rw [compile, emissions, parts, stopped]

theorem exists_first_refused {entries : List (String × Value)}
    (refused : ¬∀ entry ∈ entries, Takes (kind? entry.1) entry.2) :
    ∃ before entry after, entries = before ++ entry :: after ∧
      (∀ earlier ∈ before, Takes (kind? earlier.1) earlier.2) ∧ ¬Takes (kind? entry.1) entry.2 := by
  induction entries with
  | nil => simp at refused
  | cons first rest ih =>
      by_cases taken : Takes (kind? first.1) first.2
      · rw [List.forall_mem_cons, not_and] at refused
        rcases ih (refused taken) with ⟨before, entry, after, rfl, earlier, later⟩
        exact ⟨first :: before, entry, after, rfl, List.forall_mem_cons.mpr ⟨taken, earlier⟩, later⟩
      · exact ⟨[], first, rest, rfl, by simp, taken⟩

/-- A policy is written from what its entries are written as one by one. It has a header exactly if
each entry has one; the header then joins those that are not empty, with one record of how many
they are, and is empty exactly if every entry is silent. Otherwise the first entry without a header
refuses the policy, and every other policy that begins in the same way, for its own cause, which
names the entry; nothing is recorded then. -/
theorem compile_by_entries (policy : Policy) :
    (policy.Compiles ↔ ∀ entry ∈ policy.entries, (single entry.1 entry.2).Compiles) ∧
      (policy.Compiles → ∃ record,
        policy.compile = ⟨.ok ("; ".intercalate policy.pieces), [record]⟩ ∧
          record.level = .trace ∧
          record.message = "Compiled CSP with " ++ policy.pieces.length.repr ++ " of " ++
            policy.entries.length.repr ++ " directives emitted") ∧
      (policy.compile.value = .ok "" ↔ ∀ entry ∈ policy.entries, Silent entry.1 entry.2) ∧
      (¬policy.Compiles → ∃ before entry after cause,
        policy.entries = before ++ entry :: after ∧
          (∀ earlier ∈ before, (single earlier.1 earlier.2).Compiles) ∧
          (single entry.1 entry.2).compile.value = .error cause ∧
          cause.directive = entry.1 ∧
          policy.compile = ⟨.error cause, []⟩ ∧
          ∀ other : Policy, before ++ [entry] <+: other.entries →
            other.compile = ⟨.error cause, []⟩) := by
  refine ⟨compiles_iff_forall_entries, ?_, value_compile_eq_empty_iff, ?_⟩
  · intro compiles
    refine ⟨.compiled policy.pieces.length policy.size, ?_, rfl, rfl⟩
    rw [compile_of_compiles compiles, pieces_of_compiles compiles, List.length_map]
    rfl
  · intro fails
    rw [compiles_iff_forall_entries] at fails
    simp only [compiles_single_iff] at fails ⊢
    rcases exists_first_refused fails with ⟨before, entry, after, parts, taken, notTaken⟩
    rcases exists_error_of_not_takes notTaken with ⟨cause, refused⟩
    refine ⟨before, entry, after, cause, parts, taken, ?_,
      directive_of_emission_eq_error refused, compile_of_first_refused parts taken refused, ?_⟩
    · rw [value_compile_single, refused]
      rfl
    · rintro other ⟨others, sameStart⟩
      rw [List.append_assoc, List.singleton_append] at sameStart
      exact compile_of_first_refused sameStart.symm taken refused

end Policy

end ContentPolicy
