/-!
# Token sets

A token set is a collection of tokens in which neither order nor repetition counts. It is held in
its only written form, the strictly increasing list of its tokens under the order of code points,
so two sets with the same tokens are the same value. The main statements say that insertion and
union add exactly the given tokens.
-/

namespace ContentPolicy

/-- A finite set of tokens, written as its strictly increasing list of tokens. -/
structure TokenSet where
  tokens : List String
  sorted : tokens.Pairwise (· < ·)
deriving DecidableEq

namespace TokenSet

/-- The place of a token in an increasing list; a token that is there already is not repeated. -/
def insertSorted (token : String) : List String → List String
  | [] => [token]
  | head :: rest =>
    if token < head then token :: head :: rest
    else if token = head then head :: rest
    else head :: insertSorted token rest

@[simp]
theorem mem_insertSorted {candidate token : String} {tokens : List String} :
    candidate ∈ insertSorted token tokens ↔ candidate = token ∨ candidate ∈ tokens := by
  induction tokens with
  | nil => simp [insertSorted]
  | cons head rest ih =>
      simp only [insertSorted]
      split
      · simp
      · split
        · next same => simp [same]
        · simp only [List.mem_cons, ih, or_left_comm]

theorem lt_of_not_lt_of_ne {left right : String} (notLess : ¬left < right)
    (different : left ≠ right) : right < left := by
  apply String.not_le.mp
  intro below
  exact different (String.le_antisymm below (String.not_lt.mp notLess))

theorem pairwise_insertSorted (token : String) {tokens : List String}
    (sorted : tokens.Pairwise (· < ·)) : (insertSorted token tokens).Pairwise (· < ·) := by
  induction tokens with
  | nil => simp [insertSorted]
  | cons head rest ih =>
      obtain ⟨above, sortedRest⟩ := List.pairwise_cons.mp sorted
      simp only [insertSorted]
      split
      · next less =>
          refine List.pairwise_cons.mpr ⟨fun other member => ?_, sorted⟩
          rcases List.mem_cons.mp member with rfl | later
          · exact less
          · exact String.lt_trans less (above other later)
      · next notLess =>
          split
          · exact sorted
          · next different =>
              refine List.pairwise_cons.mpr ⟨fun other member => ?_, ih sortedRest⟩
              rcases mem_insertSorted.mp member with rfl | later
              · exact lt_of_not_lt_of_ne notLess different
              · exact above other later

def empty : TokenSet := ⟨[], .nil⟩

def insert (set : TokenSet) (token : String) : TokenSet :=
  ⟨insertSorted token set.tokens, pairwise_insertSorted token set.sorted⟩

def insertMany (set : TokenSet) (tokens : List String) : TokenSet :=
  tokens.foldl insert set

def ofList (tokens : List String) : TokenSet := empty.insertMany tokens

instance : EmptyCollection TokenSet := ⟨empty⟩

instance : Membership String TokenSet := ⟨fun set token => token ∈ set.tokens⟩

@[simp]
theorem mem_tokens {token : String} {set : TokenSet} : token ∈ set.tokens ↔ token ∈ set := Iff.rfl

@[simp]
theorem mem_insert {candidate token : String} {set : TokenSet} :
    candidate ∈ set.insert token ↔ candidate = token ∨ candidate ∈ set :=
  mem_insertSorted

@[simp]
theorem mem_insertMany {candidate : String} {tokens : List String} {set : TokenSet} :
    candidate ∈ set.insertMany tokens ↔ candidate ∈ set ∨ candidate ∈ tokens := by
  induction tokens generalizing set with
  | nil => simp [insertMany]
  | cons head rest ih =>
      have step : set.insertMany (head :: rest) = (set.insert head).insertMany rest := rfl
      rw [step, ih, mem_insert, List.mem_cons]
      constructor
      · rintro ((rfl | known) | later)
        · exact .inr (.inl rfl)
        · exact .inl known
        · exact .inr (.inr later)
      · rintro (known | rfl | later)
        · exact .inl (.inr known)
        · exact .inl (.inl rfl)
        · exact .inr later

@[simp]
theorem not_mem_empty {token : String} : token ∉ empty := by
  intro member
  cases member

@[simp]
theorem mem_ofList {token : String} {tokens : List String} :
    token ∈ ofList tokens ↔ token ∈ tokens := by
  simp [ofList]

end TokenSet

end ContentPolicy
