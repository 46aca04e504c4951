import ContentPolicy.Proofs.Merge.Layers

/-!
# Laying an override on twice

An override that is merged a second time finds its own tokens in the policy. A scalar replaces
itself, a collection without tokens has nothing to add, and a set already has every token that
reaches it again. Lists and tuples repeat what they take up. Which of these it is depends on the
form of the merged value, not on that of the override.
-/

namespace ContentPolicy

open Directive

namespace Directive.Value

theorem mergeWith_eq_self_iff {value update : Value} {tokens extra : List String}
    (valueTokens : value.tokens? = some tokens) (updateTokens : update.tokens? = some extra)
    (held : ∀ token ∈ extra, token ∈ tokens) :
    value.mergeWith update = value ↔ extra = [] ∨ ∃ union, value = .set union := by
  cases value with
  | bool flag => cases valueTokens
  | string text => cases valueTokens
  | list own =>
      rw [mergeWith_list updateTokens]
      simp
  | tuple own =>
      rw [mergeWith_tuple updateTokens]
      simp
  | set own =>
      cases valueTokens
      rw [mergeWith_set updateTokens, TokenSet.insertMany_eq_self held]
      simp

end Directive.Value

/-- Whatever a collection is laid over, a collection with all of its tokens is left. -/
theorem exists_layered_eq_some (existing : Option Value) {update : Value} {extra : List String}
    (updateTokens : update.tokens? = some extra) :
    ∃ joined tokens, layered existing (some update) = some joined ∧
      joined.tokens? = some tokens ∧ ∀ token ∈ extra, token ∈ tokens := by
  cases existing with
  | none => exact ⟨update, extra, rfl, updateTokens, fun _ => id⟩
  | some value =>
      cases valueTokens : value.tokens? with
      | none =>
          have scalar := Value.tokens?_eq_none_iff.mp valueTokens
          refine ⟨update, extra, ?_, updateTokens, fun _ => id⟩
          rw [some_layered_some, Value.mergeWith_of_scalar_existing scalar]
      | some own =>
          rcases Value.tokens?_mergeWith valueTokens updateTokens with
            ⟨tokens, joinedTokens, members⟩
          exact ⟨_, tokens, rfl, joinedTokens, fun token added => (members token).mpr (.inr added)⟩

theorem layered_layered_of_scalar (existing : Option Value) {update : Value}
    (scalar : update.isCollection = false) :
    layered (layered existing (some update)) (some update) = layered existing (some update) := by
  cases existing with
  | none => rw [none_layered, some_layered_some, Value.mergeWith_of_scalar_update scalar]
  | some value =>
      rw [some_layered_some, some_layered_some, Value.mergeWith_of_scalar_update scalar,
        Value.mergeWith_of_scalar_update scalar]

/-- A second layer of the same update makes no difference to what the first one left exactly if the
update is a scalar, or has no tokens, or a set was left. -/
theorem layered_layered_eq_iff (existing : Option Value) (update : Value) :
    layered (layered existing (some update)) (some update) = layered existing (some update) ↔
      update.isCollection = false ∨ update.tokens? = some [] ∨
        ∃ union, layered existing (some update) = some (.set union) := by
  cases updateTokens : update.tokens? with
  | none =>
      have scalar := Value.tokens?_eq_none_iff.mp updateTokens
      exact iff_of_true (layered_layered_of_scalar existing scalar) (.inl scalar)
  | some extra =>
      have collection : update.isCollection = true := Value.isCollection_iff.mpr ⟨_, updateTokens⟩
      rcases exists_layered_eq_some existing updateTokens with
        ⟨joined, tokens, left, joinedTokens, held⟩
      rw [left, some_layered_some, Option.some.injEq,
        Value.mergeWith_eq_self_iff joinedTokens updateTokens held]
      simp [collection]

namespace Policy

variable {base overrides : Policy}

theorem keys_merge_merge :
    ((base.merge overrides).merge overrides).keys = (base.merge overrides).keys := by
  apply keys_merge_of_subset
  intro name member
  exact mem_keys_merge.mpr (.inr member)

theorem get?_merge_merge_iff {name : String} :
    ((base.merge overrides).merge overrides).get? name = (base.merge overrides).get? name ↔
      ∀ update, overrides.get? name = some update →
        update.isCollection = false ∨ update.tokens? = some [] ∨
          ∃ union, (base.merge overrides).get? name = some (.set union) := by
  simp only [get?_merge]
  cases overrides.get? name with
  | none => simp
  | some update =>
      rw [layered_layered_eq_iff]
      simp

theorem empty_merge (overrides : Policy) : merge .empty overrides = overrides := by
  apply OrderedMap.ext_keys_get?
  · rw [keys_merge]
    simp
  · intro name
    simp

/-- An override can be merged a second time without a change exactly if each of its values is a
scalar, or has no tokens, or has become part of a set. With nothing beneath, this says which
policies are left alone by themselves. -/
theorem merge_merge_eq_iff (base overrides : Policy) :
    ((base.merge overrides).merge overrides = base.merge overrides ↔
      ∀ name update, overrides.get? name = some update →
        update.isCollection = false ∨ update.tokens? = some [] ∨
          ∃ union, (base.merge overrides).get? name = some (.set union)) ∧
      (overrides.merge overrides = overrides ↔
        ∀ name update, overrides.get? name = some update →
          update.isCollection = false ∨ update.tokens? = some [] ∨
            ∃ union, overrides.get? name = some (.set union)) := by
  have settled_iff : ∀ beneath : Policy,
      (beneath.merge overrides).merge overrides = beneath.merge overrides ↔
        ∀ name update, overrides.get? name = some update →
          update.isCollection = false ∨ update.tokens? = some [] ∨
            ∃ union, (beneath.merge overrides).get? name = some (.set union) := by
    intro beneath
    constructor
    · intro same name
      apply get?_merge_merge_iff.mp
      rw [same]
    · intro settled
      apply OrderedMap.ext_keys_get? keys_merge_merge
      intro name
      exact get?_merge_merge_iff.mpr (settled name)
  have alone := settled_iff .empty
  rw [empty_merge] at alone
  exact ⟨settled_iff base, alone⟩

-- The form of the base decides: a list that joins a set settles, a set that joins a list does not.
example :
    let row : Policy := .ofList [("img-src", .list ["self"])]
    let set : Policy := .ofList [("img-src", .set (.ofList ["self"]))]
    (set.merge row).merge row = set.merge row ∧
      (row.merge set).merge set = .ofList [("img-src", .list ["self", "self", "self"])] := by
  decide

end Policy

end ContentPolicy
