import ContentPolicy.Proofs.Header.Acceptance
import ContentPolicy.Proofs.Merge.Layers
import ContentPolicy.Proofs.Merge.Override

/-!
# Which merged policies have a header

The update decides whether a merged value is accepted: its form and its text pass through a merge.
Only the sandbox also looks at the tokens that the base adds. An override can therefore repair a
base, but no base can hide an invalid override.
-/

namespace ContentPolicy

open Directive

namespace Directive

/-- A kind takes a merged value exactly if it takes the update and, for the sandbox, knows the
tokens that were there. -/
theorem takes_mergeWith_iff {kind : Option Kind} {existing update : Value} :
    Takes kind (existing.mergeWith update) ↔
      Takes kind update ∧
        (kind = some .sandbox → ∀ tokens, existing.tokens? = some tokens →
          ∀ token ∈ tokens, isSandboxToken token = true) := by
  cases kind with
  | none => simp [Takes]
  | some kind =>
      cases kind with
      | list => simp [Takes, Value.isCollection_mergeWith]
      | boolean => simp [Takes]
      | reportUri => simp [Takes, Value.text?_mergeWith]
      | requireSriFor => simp [Takes, Value.text?_mergeWith]
      | sandbox =>
          cases updateTokens : update.tokens? with
          | none =>
              rw [Value.mergeWith_of_scalar_update (Value.tokens?_eq_none_iff.mp updateTokens)]
              simp [Takes, updateTokens]
          | some extra =>
              cases existingTokens : existing.tokens? with
              | none =>
                  rw [Value.mergeWith_of_scalar_existing
                    (Value.tokens?_eq_none_iff.mp existingTokens)]
                  simp
              | some tokens =>
                  rcases Value.tokens?_mergeWith existingTokens updateTokens with
                    ⟨joined, held, members⟩
                  simp only [Takes, held, updateTokens, Option.some.injEq, exists_eq_left',
                    forall_eq', true_imp_iff, members]
                  constructor
                  · intro known
                    exact ⟨fun token own => known token (.inr own),
                      fun token own => known token (.inl own)⟩
                  · rintro ⟨knownExtra, knownTokens⟩ token (own | added)
                    · exact knownTokens token own
                    · exact knownExtra token added

/-- A kind takes what two layers leave behind exactly if it takes the upper one where there is one,
the lower one where it is alone, and, for the sandbox, knows the tokens that are added to. -/
theorem takes_layered_iff {kind : Option Kind} {existing update : Option Value} :
    (∀ value, layered existing update = some value → Takes kind value) ↔
      (∀ added, update = some added → Takes kind added) ∧
        (update = none → ∀ held, existing = some held → Takes kind held) ∧
        (kind = some .sandbox → update ≠ none → ∀ held, existing = some held →
          ∀ tokens, held.tokens? = some tokens → ∀ token ∈ tokens, isSandboxToken token = true) := by
  cases update with
  | none => simp
  | some added =>
      cases existing with
      | none => simp
      | some held => simp [takes_mergeWith_iff]

end Directive

namespace Policy

/-- What a base and an override must satisfy for their merge to have a header: the override has one
of its own, so has each entry of the base that the override leaves alone, and the sandbox knows the
tokens of the base that the override adds to. -/
structure Compatible (base overrides : Policy) : Prop where
  overridesCompile : overrides.Compiles
  othersCompile : ∀ name value, base.get? name = some value → name ∉ overrides.keys →
    (single name value).Compiles
  sandboxKnown : sandboxName ∈ overrides.keys → ∀ existing,
    base.get? sandboxName = some existing → ∀ tokens, existing.tokens? = some tokens →
      ∀ token ∈ tokens, isSandboxToken token = true

theorem compiles_merge_iff_compatible {base overrides : Policy} :
    (base.merge overrides).Compiles ↔ Compatible base overrides := by
  rw [compiles_iff]
  simp only [get?_merge]
  constructor
  · intro accepted
    have byName := fun name => takes_layered_iff.mp (accepted name)
    refine ⟨compiles_iff.mpr fun name => (byName name).1, ?_, ?_⟩
    · intro name value held absent
      rw [compiles_single_iff]
      exact (byName name).2.1 (OrderedMap.get?_eq_none_iff.mpr absent) value held
    · intro present
      apply (byName sandboxName).2.2 (kind?_eq_sandbox_iff.mpr rfl)
      intro absent
      exact OrderedMap.get?_eq_none_iff.mp absent present
  · intro compatible name
    rw [takes_layered_iff]
    refine ⟨compiles_iff.mp compatible.overridesCompile name, ?_, ?_⟩
    · intro absent value held
      rw [← compiles_single_iff]
      exact compatible.othersCompile name value held (OrderedMap.get?_eq_none_iff.mp absent)
    · intro isSandbox present
      have named := kind?_eq_sandbox_iff.mp isSandbox
      subst named
      apply compatible.sandboxKnown
      by_contra absent
      exact present (OrderedMap.get?_eq_none_iff.mpr absent)

theorem Compatible.of_compiles {base overrides : Policy} (baseCompiles : base.Compiles)
    (overridesCompile : overrides.Compiles) : Compatible base overrides := by
  have accepted := compiles_iff.mp baseCompiles
  refine ⟨overridesCompile, ?_, ?_⟩
  · intro name value held _
    exact compiles_single_iff.mpr (accepted name value held)
  · intro _ existing held tokens existingTokens
    have taken := accepted sandboxName existing held
    rw [kind?_eq_sandbox_iff.mpr rfl] at taken
    simpa [Takes, existingTokens] using taken

theorem compiles_single_of_get? {policy : Policy} {name : String} {value : Value}
    (compiles : policy.Compiles) (held : policy.get? name = some value) :
    (single name value).Compiles :=
  compiles_single_iff.mpr (compiles_iff.mp compiles name value held)

/-- When a merged policy has a header. The override must have one, and so must what it leaves of
the base; of what it adds to, only the sandbox must be known. So two policies with headers merge to
one with a header, an invalid entry of the override spoils every merge, and an override with a mark
is judged without it: alone if the mark is truthy, else with the base. -/
theorem compiles_merge_iff (base overrides : Policy) :
    ((base.merge overrides).Compiles ↔ Compatible base overrides) ∧
      (base.Compiles → overrides.Compiles → (base.merge overrides).Compiles) ∧
      (∀ name update, overrides.get? name = some update → ¬(single name update).Compiles →
        ¬(base.merge overrides).Compiles) ∧
      ((∀ marker, overrides.get? overrideKey = some marker → marker.isTruthy = false) →
        ((base.resolveOverride overrides).value.Compiles ↔
          Compatible base overrides.unmarked)) ∧
      (∀ marker, overrides.get? overrideKey = some marker → marker.isTruthy = true →
        ((base.resolveOverride overrides).value.Compiles ↔
          overrides.unmarked.Compiles)) := by
  refine ⟨compiles_merge_iff_compatible, ?_, ?_, ?_, ?_⟩
  · intro baseCompiles overridesCompile
    exact compiles_merge_iff_compatible.mpr (.of_compiles baseCompiles overridesCompile)
  · intro name update held invalid merged
    have compatible := compiles_merge_iff_compatible.mp merged
    exact invalid (compiles_single_of_get? compatible.overridesCompile held)
  · intro falsy
    rw [resolveOverride_of_not_truthy falsy, compiles_merge_iff_compatible]
  · intro marker marked truthy
    rw [resolveOverride_of_truthy marked truthy]

end Policy

end ContentPolicy
