import ContentPolicy.OrderedMap.Lemmas
import ContentPolicy.Policy.Merge

/-!
# Overrides and their mark

An override whose mark is truthy stands alone; otherwise it is merged into the base. In both cases
the mark itself is taken out first. `Overridden` says the same as a relation, also for a page that
asks for nothing.
-/

namespace ContentPolicy

namespace Policy

theorem replacesBase_iff {overrides : Policy} :
    overrides.replacesBase = true ↔
      ∃ marker, overrides.get? overrideKey = some marker ∧ marker.isTruthy = true := by
  simp only [replacesBase]
  cases overrides.get? overrideKey <;> simp

theorem resolveOverride_of_replacesBase {base overrides : Policy}
    (replaces : overrides.replacesBase = true) :
    (base.resolveOverride overrides).value = overrides.unmarked := by
  simp [resolveOverride, overriddenBy, replaces]

theorem resolveOverride_of_not_replacesBase {base overrides : Policy}
    (joins : overrides.replacesBase = false) :
    (base.resolveOverride overrides).value = base.merge overrides.unmarked := by
  simp [resolveOverride, overriddenBy, joins]

theorem resolveOverride_of_truthy {base overrides : Policy} {marker : Directive.Value}
    (marked : overrides.get? overrideKey = some marker) (truthy : marker.isTruthy = true) :
    (base.resolveOverride overrides).value = overrides.unmarked :=
  resolveOverride_of_replacesBase (replacesBase_iff.mpr ⟨marker, marked, truthy⟩)

theorem resolveOverride_of_not_truthy {base overrides : Policy}
    (falsy : ∀ marker, overrides.get? overrideKey = some marker → marker.isTruthy = false) :
    (base.resolveOverride overrides).value = base.merge overrides.unmarked := by
  apply resolveOverride_of_not_replacesBase
  apply eq_false_of_ne_true
  intro replaces
  rcases replacesBase_iff.mp replaces with ⟨marker, marked, truthy⟩
  rw [falsy marker marked] at truthy
  cases truthy

/-- The policy that is left of a base under the override of a page, if there is one. A truthy mark
lets the override take the place of the base; without a mark, or with a falsy one, it is merged into
the base. The mark itself is taken out. -/
inductive Overridden (base : Policy) : Option Policy → Policy → Prop where
  | absent : Overridden base none base
  | replaced {overrides : Policy} {marker : Directive.Value}
      (marked : overrides.get? overrideKey = some marker) (truthy : marker.isTruthy = true) :
      Overridden base (some overrides) (overrides.erase overrideKey)
  | merged {overrides : Policy}
      (falsy : ∀ marker, overrides.get? overrideKey = some marker → marker.isTruthy = false) :
      Overridden base (some overrides) (base.merge (overrides.erase overrideKey))

@[simp]
theorem overridden_none_iff {base final : Policy} : Overridden base none final ↔ final = base := by
  constructor
  · rintro ⟨⟩
    rfl
  · rintro rfl
    exact .absent

@[simp]
theorem overridden_some_iff {base overrides final : Policy} :
    Overridden base (some overrides) final ↔ final = (base.resolveOverride overrides).value := by
  constructor
  · intro overridden
    cases overridden with
    | replaced marked truthy => exact (resolveOverride_of_truthy marked truthy).symm
    | merged falsy => exact (resolveOverride_of_not_truthy falsy).symm
  · rintro rfl
    by_cases marked :
        ∃ marker, overrides.get? overrideKey = some marker ∧ marker.isTruthy = true
    · rcases marked with ⟨marker, marked, truthy⟩
      rw [resolveOverride_of_truthy marked truthy]
      exact .replaced marked truthy
    · have falsy : ∀ marker, overrides.get? overrideKey = some marker →
          marker.isTruthy = false := by
        intro marker held
        apply eq_false_of_ne_true
        intro truthy
        exact marked ⟨marker, held, truthy⟩
      rw [resolveOverride_of_not_truthy falsy]
      exact .merged falsy

end Policy

end ContentPolicy
