import ContentPolicy.Proofs.Merge.Layers
import ContentPolicy.Proofs.Merge.Override
import Mathlib.Data.List.Forall2

/-!
# Overrides one after another

Several layers of overrides are laid over a base in turn. A layer with a truthy mark forgets all
that lies beneath it, so only the last of these counts and what comes after it; every other layer is
merged. No layer passes its mark on, wherever among its entries it stands.
-/

namespace ContentPolicy

open Directive

namespace Directive.Value

/-- Whether a value is neither the cleared flag nor empty. -/
def Truthy (value : Value) : Prop :=
  value ≠ .bool false ∧ value ≠ .string "" ∧ value.tokens? ≠ some []

theorem isTruthy_iff {value : Value} : value.isTruthy = true ↔ value.Truthy := by
  cases value with
  | bool flag => cases flag <;> simp [isTruthy, Truthy, tokens?]
  | string text => simp [isTruthy, Truthy, tokens?]
  | list tokens => simp [isTruthy, Truthy, tokens?]
  | set tokens => simp [isTruthy, Truthy, tokens?]
  | tuple tokens => simp [isTruthy, Truthy, tokens?]

end Directive.Value

namespace Policy

variable {base layer other : Policy} {layers others : List Policy}

/-- A base with layers of overrides laid over it in order. -/
def overriddenByAll (base : Policy) (layers : List Policy) : Policy :=
  layers.foldl (fun policy layer => (policy.resolveOverride layer).value) base

/-- A base into which layers are merged in order, each without its mark. -/
def mergeAll (base : Policy) (layers : List Policy) : Policy :=
  (layers.map fun layer => layer.erase overrideKey).foldl merge base

/-- Whether a layer is marked to stand alone. -/
def Replacing (layer : Policy) : Prop :=
  ∃ marker, layer.get? overrideKey = some marker ∧ marker.Truthy

/-- Whether two layers are the same but for the place of their mark. -/
inductive MarkMoved : Policy → Policy → Prop where
  | refl (layer : Policy) : MarkMoved layer layer
  | moved {layer other : Policy} {marker : Value} {before after front back : List (String × Value)}
      (here : layer.entries = before ++ (overrideKey, marker) :: after)
      (there : other.entries = front ++ (overrideKey, marker) :: back)
      (rest : before ++ after = front ++ back) : MarkMoved layer other

theorem replacing_iff : layer.Replacing ↔ layer.replacesBase = true := by
  simp only [Replacing, replacesBase_iff, Value.isTruthy_iff]

theorem overriddenByAll_append (base : Policy) (earlier later : List Policy) :
    base.overriddenByAll (earlier ++ later) =
      (base.overriddenByAll earlier).overriddenByAll later :=
  List.foldl_append

/-- A layer that does not stand alone is merged without its mark. -/
theorem resolveOverride_of_not_replacing (joins : ¬layer.Replacing) :
    (base.resolveOverride layer).value = base.merge (layer.erase overrideKey) := by
  apply resolveOverride_of_not_replacesBase
  rwa [replacing_iff, Bool.not_eq_true] at joins

theorem overriddenByAll_of_not_replacing (join : ∀ layer ∈ layers, ¬layer.Replacing) :
    base.overriddenByAll layers = base.mergeAll layers := by
  induction layers generalizing base with
  | nil => rfl
  | cons layer rest ih =>
      rcases List.forall_mem_cons.mp join with ⟨first, others⟩
      rw [overriddenByAll, List.foldl_cons, resolveOverride_of_not_replacing first]
      exact ih others

/-- Nothing beneath a layer that stands alone has a part in the result. -/
theorem overriddenByAll_of_replacing {earlier later : List Policy} (replaces : layer.Replacing)
    (join : ∀ layer ∈ later, ¬layer.Replacing) :
    base.overriddenByAll (earlier ++ layer :: later) =
      mergeAll (layer.erase overrideKey) later := by
  rw [overriddenByAll_append, overriddenByAll, List.foldl_cons,
    resolveOverride_of_replacesBase (replacing_iff.mp replaces)]
  exact overriddenByAll_of_not_replacing join

theorem exists_last_replacing (marked : ∃ layer ∈ layers, layer.Replacing) :
    ∃ earlier last later, layers = earlier ++ last :: later ∧ last.Replacing ∧
      ∀ layer ∈ later, ¬layer.Replacing := by
  induction layers with
  | nil => simp at marked
  | cons layer rest ih =>
      by_cases later : ∃ layer ∈ rest, layer.Replacing
      · rcases ih later with ⟨earlier, last, behind, rfl, replaces, join⟩
        exact ⟨layer :: earlier, last, behind, rfl, replaces, join⟩
      · rcases marked with ⟨last, member, replaces⟩
        rcases List.mem_cons.mp member with rfl | inRest
        · refine ⟨[], last, rest, rfl, replaces, ?_⟩
          intro other inRest again
          exact later ⟨other, inRest, again⟩
        · exact absurd ⟨last, inRest, replaces⟩ later

theorem overrideKey_not_mem_keys_erase (layer : Policy) :
    overrideKey ∉ (layer.erase overrideKey).keys := by
  rw [OrderedMap.keys_erase]
  simp

/-- Merging passes on the mark of the base and of no layer. -/
theorem overrideKey_mem_keys_mergeAll :
    overrideKey ∈ (base.mergeAll layers).keys ↔ overrideKey ∈ base.keys := by
  induction layers generalizing base with
  | nil => exact Iff.rfl
  | cons layer rest ih =>
      have step : base.mergeAll (layer :: rest) =
          (base.merge (layer.erase overrideKey)).mergeAll rest := rfl
      rw [step, ih, mem_keys_merge]
      exact or_iff_left (overrideKey_not_mem_keys_erase layer)

theorem overrideKey_mem_keys_overriddenByAll :
    overrideKey ∈ (base.overriddenByAll layers).keys ↔
      (∀ layer ∈ layers, ¬layer.Replacing) ∧ overrideKey ∈ base.keys := by
  by_cases marked : ∃ layer ∈ layers, layer.Replacing
  · rcases exists_last_replacing marked with ⟨earlier, last, later, rfl, replaces, join⟩
    rw [overriddenByAll_of_replacing replaces join, overrideKey_mem_keys_mergeAll]
    apply iff_of_false (overrideKey_not_mem_keys_erase last)
    rintro ⟨join, -⟩
    exact join last (by simp) replaces
  · have join : ∀ layer ∈ layers, ¬layer.Replacing := by
      intro layer member replaces
      exact marked ⟨layer, member, replaces⟩
    rw [overriddenByAll_of_not_replacing join, overrideKey_mem_keys_mergeAll]
    exact (and_iff_right join).symm

theorem MarkMoved.get?_eq (moved : MarkMoved layer other) :
    layer.get? overrideKey = other.get? overrideKey := by
  cases moved with
  | refl => rfl
  | moved here there rest =>
      rw [OrderedMap.get?_eq_some_iff.mpr (here ▸ List.mem_append_right _ List.mem_cons_self),
        OrderedMap.get?_eq_some_iff.mpr (there ▸ List.mem_append_right _ List.mem_cons_self)]

theorem MarkMoved.erase_eq (moved : MarkMoved layer other) :
    layer.erase overrideKey = other.erase overrideKey := by
  cases moved with
  | refl => rfl
  | moved here there rest =>
      apply OrderedMap.ext_entries
      have dropMark : ∀ {marker : Value} (before after : List (String × Value)),
          (before ++ (overrideKey, marker) :: after).filter (·.1 ≠ overrideKey) =
            (before ++ after).filter (·.1 ≠ overrideKey) := by
        intro marker before after
        simp
      simp only [OrderedMap.erase]
      rw [here, there, dropMark, dropMark, rest]

theorem MarkMoved.resolveOverride_eq (moved : MarkMoved layer other) :
    (base.resolveOverride layer).value = (base.resolveOverride other).value := by
  have sameMark : layer.replacesBase = other.replacesBase := by
    simp only [replacesBase, moved.get?_eq]
  simp only [resolveOverride, overriddenBy, unmarked, sameMark, moved.erase_eq]

theorem overriddenByAll_of_markMoved (moved : List.Forall₂ MarkMoved layers others) :
    base.overriddenByAll layers = base.overriddenByAll others := by
  induction moved generalizing base with
  | nil => rfl
  | cons first _ ih =>
      rw [overriddenByAll, overriddenByAll, List.foldl_cons, List.foldl_cons,
        first.resolveOverride_eq]
      exact ih

/-- What layers of overrides leave of a base. With a truthy mark among them, it is the last layer
that has one, without the mark, with the later layers merged into it, whatever lies beneath; without
one, all layers are merged into the base. A mark is left over only from a base that no layer
replaces, and where a layer has its mark does not matter. -/
theorem overrides_in_layers (base : Policy) (layers : List Policy) :
    ((∃ layer ∈ layers, layer.Replacing) →
        ∃ earlier last later, layers = earlier ++ last :: later ∧ last.Replacing ∧
          (∀ layer ∈ later, ¬layer.Replacing) ∧
          ∀ start beneath, overriddenByAll start (beneath ++ last :: later) =
            mergeAll (last.erase overrideKey) later) ∧
      ((∀ layer ∈ layers, ¬layer.Replacing) →
        base.overriddenByAll layers = base.mergeAll layers) ∧
      (overrideKey ∈ (base.overriddenByAll layers).keys ↔
        (∀ layer ∈ layers, ¬layer.Replacing) ∧ overrideKey ∈ base.keys) ∧
      ∀ others, List.Forall₂ MarkMoved layers others →
        base.overriddenByAll others = base.overriddenByAll layers := by
  refine ⟨?_, overriddenByAll_of_not_replacing, overrideKey_mem_keys_overriddenByAll, ?_⟩
  · intro marked
    rcases exists_last_replacing marked with ⟨earlier, last, later, same, replaces, join⟩
    refine ⟨earlier, last, later, same, replaces, join, ?_⟩
    intro start beneath
    exact overriddenByAll_of_replacing replaces join
  · intro others moved
    exact (overriddenByAll_of_markMoved moved).symm

end Policy

end ContentPolicy
