import ContentPolicy.Directive.Value
import ContentPolicy.Proofs.TokenSet.Union

/-!
# Laying one value over another

What the merge of two values is, read off their forms. A scalar on either side lets the update
stand alone; two collections join their tokens in the form of the value that was there.
-/

namespace ContentPolicy

namespace Directive.Value

theorem isCollection_iff {value : Value} :
    value.isCollection = true ↔ ∃ tokens, value.tokens? = some tokens :=
  Option.isSome_iff_exists

theorem tokens?_eq_none_iff {value : Value} :
    value.tokens? = none ↔ value.isCollection = false := by
  simp [isCollection]

theorem mergeWith_of_scalar_update {existing update : Value}
    (scalar : update.isCollection = false) : existing.mergeWith update = update := by
  have noTokens := tokens?_eq_none_iff.mpr scalar
  cases existing <;> simp [mergeWith, noTokens]

theorem mergeWith_of_scalar_existing {existing update : Value}
    (scalar : existing.isCollection = false) : existing.mergeWith update = update := by
  cases existing with
  | bool flag => rfl
  | string text => rfl
  | list tokens => simp [isCollection, tokens?] at scalar
  | set tokens => simp [isCollection, tokens?] at scalar
  | tuple tokens => simp [isCollection, tokens?] at scalar

theorem mergeWith_list {tokens extra : List String} {update : Value}
    (collection : update.tokens? = some extra) :
    (list tokens).mergeWith update = list (tokens ++ extra) := by
  simp [mergeWith, collection]

theorem mergeWith_tuple {tokens extra : List String} {update : Value}
    (collection : update.tokens? = some extra) :
    (tuple tokens).mergeWith update = tuple (tokens ++ extra) := by
  simp [mergeWith, collection]

theorem mergeWith_set {tokens : TokenSet} {extra : List String} {update : Value}
    (collection : update.tokens? = some extra) :
    (set tokens).mergeWith update = set (tokens.insertMany extra) := by
  simp [mergeWith, collection]

theorem text?_of_collection {value : Value} (collection : value.isCollection = true) :
    value.text? = none := by
  cases value with
  | string text => simp [isCollection, tokens?] at collection
  | _ => rfl

/-- Two collections merge to a collection that holds the tokens of both. -/
theorem tokens?_mergeWith {existing update : Value} {tokens extra : List String}
    (existingTokens : existing.tokens? = some tokens) (updateTokens : update.tokens? = some extra) :
    ∃ joined, (existing.mergeWith update).tokens? = some joined ∧
      ∀ token, token ∈ joined ↔ token ∈ tokens ∨ token ∈ extra := by
  cases existing with
  | bool flag => cases existingTokens
  | string text => cases existingTokens
  | list own =>
      cases existingTokens
      rw [mergeWith_list updateTokens]
      exact ⟨_, rfl, fun token => List.mem_append⟩
  | tuple own =>
      cases existingTokens
      rw [mergeWith_tuple updateTokens]
      exact ⟨_, rfl, fun token => List.mem_append⟩
  | set own =>
      cases existingTokens
      rw [mergeWith_set updateTokens]
      exact ⟨_, rfl, fun token => TokenSet.mem_insertMany⟩

/-- A merge is a collection exactly if the update is one. -/
theorem isCollection_mergeWith (existing update : Value) :
    (existing.mergeWith update).isCollection = update.isCollection := by
  cases updateTokens : update.tokens? with
  | none => rw [mergeWith_of_scalar_update (tokens?_eq_none_iff.mp updateTokens)]
  | some extra =>
      cases existingTokens : existing.tokens? with
      | none => rw [mergeWith_of_scalar_existing (tokens?_eq_none_iff.mp existingTokens)]
      | some tokens =>
          rcases tokens?_mergeWith existingTokens updateTokens with ⟨joined, held, -⟩
          rw [isCollection, isCollection, held, updateTokens, Option.isSome_some,
            Option.isSome_some]

/-- A merge is a text exactly if the update is one, and then it is that text. -/
theorem text?_mergeWith (existing update : Value) :
    (existing.mergeWith update).text? = update.text? := by
  by_cases collection : update.isCollection = true
  · have joined := isCollection_mergeWith existing update
    rw [text?_of_collection collection, text?_of_collection (joined.trans collection)]
  · rw [mergeWith_of_scalar_update (eq_false_of_ne_true collection)]

/-- The value that an update leaves behind where there is a value already. A scalar on either side
lets the update stand alone; a list or a tuple takes up the tokens of a collection behind its own; a
set becomes the set whose members are its own and those of the collection, so that neither their
order nor their repetition counts. -/
inductive Joins : Value → Value → Value → Prop where
  | scalarUpdate {existing update : Value} (scalar : update.isCollection = false) :
      Joins existing update update
  | scalarExisting {existing update : Value} (scalar : existing.isCollection = false) :
      Joins existing update update
  | list {tokens extra : List String} {update : Value}
      (collection : update.tokens? = some extra) :
      Joins (list tokens) update (list (tokens ++ extra))
  | tuple {tokens extra : List String} {update : Value}
      (collection : update.tokens? = some extra) :
      Joins (tuple tokens) update (tuple (tokens ++ extra))
  | set {tokens union : TokenSet} {extra : List String} {update : Value}
      (collection : update.tokens? = some extra)
      (mem_union : ∀ token, token ∈ union ↔ token ∈ tokens ∨ token ∈ extra) :
      Joins (set tokens) update (set union)

theorem joins_mergeWith (existing update : Value) :
    Joins existing update (existing.mergeWith update) := by
  cases collection : update.tokens? with
  | none =>
      have scalar := tokens?_eq_none_iff.mp collection
      rw [mergeWith_of_scalar_update scalar]
      exact .scalarUpdate scalar
  | some extra =>
      cases existing with
      | bool flag => exact .scalarExisting rfl
      | string text => exact .scalarExisting rfl
      | list tokens =>
          rw [mergeWith_list collection]
          exact .list collection
      | tuple tokens =>
          rw [mergeWith_tuple collection]
          exact .tuple collection
      | set tokens =>
          rw [mergeWith_set collection]
          exact .set collection fun token => TokenSet.mem_insertMany

theorem Joins.eq_mergeWith {existing update result : Value}
    (joins : Joins existing update result) : existing.mergeWith update = result := by
  cases joins with
  | scalarUpdate scalar => exact mergeWith_of_scalar_update scalar
  | scalarExisting scalar => exact mergeWith_of_scalar_existing scalar
  | list collection => exact mergeWith_list collection
  | tuple collection => exact mergeWith_tuple collection
  | set collection mem_union =>
      rw [mergeWith_set collection]
      congr 1
      apply TokenSet.ext_mem
      intro token
      rw [mem_union, TokenSet.mem_insertMany]

/-- Two values leave exactly one value behind, the one that the merge gives. -/
theorem joins_iff {existing update result : Value} :
    Joins existing update result ↔ existing.mergeWith update = result := by
  constructor
  · exact Joins.eq_mergeWith
  · rintro rfl
    exact joins_mergeWith existing update

end Directive.Value

end ContentPolicy
