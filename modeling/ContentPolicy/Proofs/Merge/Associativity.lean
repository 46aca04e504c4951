import ContentPolicy.Proofs.Merge.Layers

/-!
# Grouping three layers

Three policies can be merged from the left or from the right. The names agree in any case, and so
do the values wherever a layer is missing or one of the outer two holds a scalar. Between two
collections a scalar in the middle forgets the lowest layer, and a set in the middle sorts the
tokens above a list or a tuple. The main statement says that nothing else keeps the two groupings
apart.
-/

namespace ContentPolicy

open Directive

namespace Directive.Value

/-- What the middle of three layers must satisfy for the outer two, which are collections, to be
grouped with it either way: over a scalar, the upper layer is what it would be over the lower one,
and between a list or a tuple and the upper layer, the tokens of a set are in order already. -/
structure Regroups (lower middle upper : Value) : Prop where
  scalar : middle.isCollection = false → lower.mergeWith upper = upper
  set : middle.form = .set → lower.form = .list ∨ lower.form = .tuple →
    ∀ tokens extra, middle.tokens? = some tokens → upper.tokens? = some extra →
      (TokenSet.ofList (tokens ++ extra)).tokens = tokens ++ extra

theorem isCollection_of_form {value : Value}
    (form : value.form = .set ∨ value.form = .list ∨ value.form = .tuple) :
    value.isCollection = true := by
  cases value <;> simp_all [Value.form, isCollection, tokens?]

/-- If a merge only appends tokens to the middle layer, the layers can be grouped either way. -/
theorem mergeWith_assoc_of_append (lower : Value) {middle upper : Value}
    {tokens extra : List String} (middleTokens : middle.tokens? = some tokens)
    (upperTokens : upper.tokens? = some extra)
    (joinedTokens : (middle.mergeWith upper).tokens? = some (tokens ++ extra)) :
    (lower.mergeWith middle).mergeWith upper = lower.mergeWith (middle.mergeWith upper) := by
  cases lower with
  | bool flag => rfl
  | string text => rfl
  | list own =>
      rw [mergeWith_list middleTokens, mergeWith_list upperTokens, mergeWith_list joinedTokens,
        List.append_assoc]
  | tuple own =>
      rw [mergeWith_tuple middleTokens, mergeWith_tuple upperTokens, mergeWith_tuple joinedTokens,
        List.append_assoc]
  | set own =>
      rw [mergeWith_set middleTokens, mergeWith_set upperTokens, mergeWith_set joinedTokens,
        TokenSet.insertMany_append]

theorem tokens?_mergeWith_row {existing update : Value} {tokens extra : List String}
    (row : existing.form = .list ∨ existing.form = .tuple)
    (existingTokens : existing.tokens? = some tokens) (updateTokens : update.tokens? = some extra) :
    (existing.mergeWith update).tokens? = some (tokens ++ extra) := by
  cases existing with
  | bool flag => simp [form] at row
  | string text => simp [form] at row
  | set own => simp [form] at row
  | list own =>
      cases existingTokens
      rw [mergeWith_list updateTokens]
      rfl
  | tuple own =>
      cases existingTokens
      rw [mergeWith_tuple updateTokens]
      rfl

theorem mergeWith_scalar_assoc_iff {lower middle upper : Value}
    (scalar : middle.isCollection = false) :
    (lower.mergeWith middle).mergeWith upper = lower.mergeWith (middle.mergeWith upper) ↔
      Regroups lower middle upper := by
  have notSet : middle.form ≠ .set := by
    intro isSet
    rw [isCollection_of_form (.inl isSet)] at scalar
    cases scalar
  rw [mergeWith_of_scalar_update scalar, mergeWith_of_scalar_existing scalar]
  constructor
  · intro same
    exact ⟨fun _ => same.symm, fun isSet => absurd isSet notSet⟩
  · intro regroups
    exact (regroups.scalar scalar).symm

/-- A set in the middle is sorted before it reaches a list or a tuple, and after it otherwise. -/
theorem mergeWith_set_assoc_iff {lower upper : Value} {middle : TokenSet} {extra : List String}
    (upperTokens : upper.tokens? = some extra) :
    (lower.mergeWith (.set middle)).mergeWith upper =
        lower.mergeWith ((Value.set middle).mergeWith upper) ↔
      (lower.form = .list ∨ lower.form = .tuple →
        (TokenSet.ofList (middle.tokens ++ extra)).tokens = middle.tokens ++ extra) := by
  have middleTokens : (Value.set middle).tokens? = some middle.tokens := rfl
  have joinedTokens : ((Value.set middle).mergeWith upper).tokens? =
      some (TokenSet.ofList (middle.tokens ++ extra)).tokens := by
    rw [mergeWith_set upperTokens, TokenSet.insertMany_eq_ofList_append]
    rfl
  cases lower with
  | bool flag => simp [mergeWith, form]
  | string text => simp [mergeWith, form]
  | list own =>
      rw [mergeWith_list middleTokens, mergeWith_list upperTokens, mergeWith_list joinedTokens]
      simp [form, eq_comm]
  | tuple own =>
      rw [mergeWith_tuple middleTokens, mergeWith_tuple upperTokens, mergeWith_tuple joinedTokens]
      simp [form, eq_comm]
  | set own =>
      rw [mergeWith_set middleTokens, mergeWith_set upperTokens, mergeWith_set joinedTokens,
        ← TokenSet.insertMany_eq_ofList_append, TokenSet.insertMany_tokens_insertMany]
      simp [form]

theorem mergeWith_row_assoc_iff {lower middle upper : Value} {extra : List String}
    (row : middle.form = .list ∨ middle.form = .tuple) (upperTokens : upper.tokens? = some extra) :
    (lower.mergeWith middle).mergeWith upper = lower.mergeWith (middle.mergeWith upper) ↔
      Regroups lower middle upper := by
  rcases isCollection_iff.mp (isCollection_of_form (.inr row)) with ⟨tokens, middleTokens⟩
  have regroups : Regroups lower middle upper := by
    constructor
    · intro scalar
      rw [isCollection_of_form (.inr row)] at scalar
      cases scalar
    · intro isSet
      simp [isSet] at row
  have joinedTokens := tokens?_mergeWith_row row middleTokens upperTokens
  have same := mergeWith_assoc_of_append lower middleTokens upperTokens joinedTokens
  exact iff_of_true same regroups

/-- Under a collection, three values can be grouped either way exactly if they regroup. -/
theorem mergeWith_assoc_iff_of_collection {lower middle upper : Value}
    (upperCollection : upper.isCollection = true) :
    (lower.mergeWith middle).mergeWith upper = lower.mergeWith (middle.mergeWith upper) ↔
      Regroups lower middle upper := by
  rcases isCollection_iff.mp upperCollection with ⟨extra, upperTokens⟩
  cases middle with
  | bool flag => exact mergeWith_scalar_assoc_iff rfl
  | string text => exact mergeWith_scalar_assoc_iff rfl
  | list tokens => exact mergeWith_row_assoc_iff (.inl rfl) upperTokens
  | tuple tokens => exact mergeWith_row_assoc_iff (.inr rfl) upperTokens
  | set tokens =>
      rw [mergeWith_set_assoc_iff upperTokens]
      constructor
      · intro inOrder
        constructor
        · intro scalar
          cases scalar
        · intro _ row held added heldTokens addedTokens
          cases heldTokens
          cases upperTokens.symm.trans addedTokens
          exact inOrder row
      · intro regroups row
        exact regroups.set rfl row tokens.tokens extra rfl upperTokens

theorem mergeWith_assoc_iff {lower middle upper : Value} :
    (lower.mergeWith middle).mergeWith upper = lower.mergeWith (middle.mergeWith upper) ↔
      (lower.isCollection = true → upper.isCollection = true → Regroups lower middle upper) := by
  cases lowerForm : lower.isCollection with
  | false =>
      rw [mergeWith_of_scalar_existing lowerForm, mergeWith_of_scalar_existing lowerForm]
      simp
  | true =>
      cases upperForm : upper.isCollection with
      | false =>
          rw [mergeWith_of_scalar_update upperForm, mergeWith_of_scalar_update upperForm,
            mergeWith_of_scalar_update upperForm]
          simp
      | true => simp [mergeWith_assoc_iff_of_collection upperForm]

end Directive.Value

/-- Where a layer is missing, or an outer layer is a scalar, both groupings agree; between two
collections they agree exactly if the three values regroup. -/
theorem layered_assoc_iff (lower middle upper : Option Value) :
    layered (layered lower middle) upper = layered lower (layered middle upper) ↔
      ∀ first second third, lower = some first → middle = some second → upper = some third →
        first.isCollection = true → third.isCollection = true →
          Value.Regroups first second third := by
  cases lower with
  | none => simp
  | some first =>
      cases middle with
      | none => simp
      | some second =>
          cases upper with
          | none => simp
          | some third =>
              simp only [some_layered_some, Option.some.injEq, Value.mergeWith_assoc_iff]
              constructor
              · rintro regroups _ _ _ rfl rfl rfl
                exact regroups
              · intro regroups
                exact regroups first second third rfl rfl rfl

namespace Policy

theorem keys_merge_assoc (first second third : Policy) :
    ((first.merge second).merge third).keys = (first.merge (second.merge third)).keys := by
  have sameFilter : third.keys.filter (· ∉ (first.merge second).keys) =
      (third.keys.filter (· ∉ second.keys)).filter (· ∉ first.keys) := by
    rw [List.filter_filter]
    apply List.filter_congr
    intro name _
    simp [mem_keys_merge]
  rw [keys_merge, sameFilter, keys_merge, keys_merge, keys_merge, List.filter_append,
    List.append_assoc]

/-- What three policies must satisfy under a name for their layers to be grouped either way. -/
def RegroupsAt (first second third : Policy) (name : String) : Prop :=
  ∀ lower middle upper, first.get? name = some lower → second.get? name = some middle →
    third.get? name = some upper → lower.isCollection = true → upper.isCollection = true →
      Value.Regroups lower middle upper

theorem get?_merge_assoc_iff (first second third : Policy) (name : String) :
    ((first.merge second).merge third).get? name = (first.merge (second.merge third)).get? name ↔
      RegroupsAt first second third name := by
  simp only [get?_merge]
  exact layered_assoc_iff _ _ _

/-- Three policies can be merged from the left or from the right with the same result exactly if
their values regroup under every name. The names never differ, and under each name the values
differ only if they do not regroup. -/
theorem merge_assoc_iff (first second third : Policy) :
    ((first.merge second).merge third).keys = (first.merge (second.merge third)).keys ∧
      (∀ name,
        ((first.merge second).merge third).get? name =
            (first.merge (second.merge third)).get? name ↔
          RegroupsAt first second third name) ∧
      ((first.merge second).merge third = first.merge (second.merge third) ↔
        ∀ name, RegroupsAt first second third name) := by
  refine ⟨keys_merge_assoc first second third, get?_merge_assoc_iff first second third, ?_⟩
  constructor
  · intro same name
    rw [← get?_merge_assoc_iff, same]
  · intro regroups
    apply OrderedMap.ext_keys_get? (keys_merge_assoc first second third)
    intro name
    exact (get?_merge_assoc_iff first second third name).mpr (regroups name)

-- A text in the middle forgets the lowest layer only if it is laid over that layer first.
example :
    let lower : Policy := .ofList [("img-src", .list ["self"])]
    let middle : Policy := .ofList [("img-src", .string "none")]
    let upper : Policy := .ofList [("img-src", .list ["data:"])]
    (lower.merge middle).merge upper = .ofList [("img-src", .list ["data:"])] ∧
      lower.merge (middle.merge upper) = .ofList [("img-src", .list ["self", "data:"])] := by
  decide

end Policy

end ContentPolicy
