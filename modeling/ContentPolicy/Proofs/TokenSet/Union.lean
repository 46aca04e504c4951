import ContentPolicy.TokenSet
import Mathlib.Data.List.Sort
import Mathlib.Data.String.Basic

/-!
# Unions of token sets

A token set is determined by its members, since its written form is sorted and without repetition.
Equations between unions therefore follow by comparing members, and neither the order nor the
repetition of the tokens that join a set can be seen in the result.
-/

namespace ContentPolicy

namespace TokenSet

theorem ext_mem {left right : TokenSet} (same : ∀ token, token ∈ left ↔ token ∈ right) :
    left = right := by
  rcases left with ⟨leftTokens, leftSorted⟩
  rcases right with ⟨rightTokens, rightSorted⟩
  congr 1
  exact leftSorted.eq_of_mem_iff rightSorted same

/-- The union of a set with the tokens of a list is the set of all of them. -/
theorem insertMany_eq_ofList_append (set : TokenSet) (extra : List String) :
    set.insertMany extra = ofList (set.tokens ++ extra) := by
  apply ext_mem
  intro token
  simp

/-- Unions can be taken in either grouping. -/
theorem insertMany_tokens_insertMany (first second : TokenSet) (extra : List String) :
    first.insertMany (second.insertMany extra).tokens =
      (first.insertMany second.tokens).insertMany extra := by
  apply ext_mem
  intro token
  simp [or_assoc]

theorem insertMany_eq_self {set : TokenSet} {extra : List String}
    (known : ∀ token ∈ extra, token ∈ set) : set.insertMany extra = set := by
  apply ext_mem
  intro token
  rw [mem_insertMany]
  exact or_iff_left_of_imp (known token)

theorem insertMany_append (set : TokenSet) (tokens extra : List String) :
    set.insertMany (tokens ++ extra) = (set.insertMany tokens).insertMany extra := by
  simp [insertMany]

end TokenSet

end ContentPolicy
