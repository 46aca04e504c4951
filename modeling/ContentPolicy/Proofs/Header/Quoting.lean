import ContentPolicy.Proofs.Header.Acceptance
import ContentPolicy.Proofs.TokenSet.Union

/-!
# Words that come in their quotes

A source can be given in the quotes that a header puts around it. No word that begins with a quote
takes quotes, so quoting a second time changes nothing, and the only different words that are
written alike are one that takes quotes and the same one in them. A source list is therefore written
the same whether its words come bare or quoted, as long as they keep their order. Lists and tuples
keep it. A set sorts its words as they are spelled, and the quotes are part of the spelling.
-/

namespace ContentPolicy

open Directive

namespace Directive

/-- Whether a word is another one in the quotes that this one takes. -/
def Wraps (word bare : String) : Prop := needsQuotes bare = true ∧ word = "'" ++ bare ++ "'"

theorem Wraps.eq_quote {word bare : String} (wraps : Wraps word bare) : word = quote bare := by
  rcases wraps with ⟨takesQuotes, rfl⟩
  exact (quote_of_needsQuotes takesQuotes).symm

/-- Words are written alike exactly if they are equal or one is the other in its quotes. -/
theorem quote_eq_quote_iff {left right : String} :
    quote left = quote right ↔ left = right ∨ Wraps right left ∨ Wraps left right := by
  constructor
  · -- Where just one of the words takes quotes, the equation says that the other has it in them.
    intro same
    cases leftBare : needsQuotes left with
    | false =>
        rw [quote_of_not_needsQuotes leftBare] at same
        cases rightBare : needsQuotes right with
        | false =>
            rw [quote_of_not_needsQuotes rightBare] at same
            exact .inl same
        | true =>
            rw [quote_of_needsQuotes rightBare] at same
            exact .inr (.inr ⟨rightBare, same⟩)
    | true =>
        rw [quote_of_needsQuotes leftBare] at same
        cases rightBare : needsQuotes right with
        | false =>
            rw [quote_of_not_needsQuotes rightBare] at same
            exact .inr (.inl ⟨leftBare, same.symm⟩)
        | true =>
            rw [quote_of_needsQuotes rightBare, String.append_left_inj,
              String.append_right_inj] at same
            exact .inl same
  · rintro (rfl | wraps | wraps)
    · rfl
    · rw [wraps.eq_quote, quote_quote]
    · rw [wraps.eq_quote, quote_quote]

theorem sourcesEmission_eq_iff {name : String} {left right : List String} :
    sourcesEmission name left = sourcesEmission name right ↔
      left.map quote = right.map quote := by
  cases left <;> cases right <;> simp [sourcesEmission]

/-- A source list is known by its words in their quotes: lists with the same ones emit the same, in
whatever form they are held, and lists with other ones do not. -/
theorem emission_eq_iff_map_quote_eq {name : String} {left right : Value}
    {leftWords rightWords : List String} (isList : kind? name = some .list)
    (leftHeld : left.tokens? = some leftWords) (rightHeld : right.tokens? = some rightWords) :
    emission name left = emission name right ↔ leftWords.map quote = rightWords.map quote := by
  simp only [emission, isList, expectTokens_of_some leftHeld, expectTokens_of_some rightHeld,
    Except.map, Except.ok.injEq]
  exact sourcesEmission_eq_iff

/-- A value with each word of a list or a tuple in the quotes that it takes. -/
def Value.quoted : Value → Value
  | .bool flag => .bool flag
  | .string text => .string text
  | .list tokens => .list (tokens.map quote)
  | .set tokens => .set tokens
  | .tuple tokens => .tuple (tokens.map quote)

/-- A value as it stands under a name, its words in quotes if the name is that of a source list. -/
def quotedUnder (name : String) (value : Value) : Value :=
  if kind? name = some .list then value.quoted else value

theorem emission_quoted {name : String} (isList : kind? name = some .list) (value : Value) :
    emission name value.quoted = emission name value := by
  cases value with
  | list words => exact (emission_eq_iff_map_quote_eq isList rfl rfl).mpr (by simp)
  | tuple words => exact (emission_eq_iff_map_quote_eq isList rfl rfl).mpr (by simp)
  | _ => rfl

theorem emission_quotedUnder (name : String) (value : Value) :
    emission name (quotedUnder name value) = emission name value := by
  rw [quotedUnder]
  split
  · next isList => exact emission_quoted isList value
  · rfl

theorem map_quote_ofList_map_quote (words : List String) :
    (TokenSet.ofList (words.map quote)).tokens.map quote =
      (TokenSet.ofList (words.map quote)).tokens := by
  have finished : ∀ word ∈ (TokenSet.ofList (words.map quote)).tokens, quote word = id word := by
    intro word member
    rcases List.mem_map.mp (TokenSet.mem_ofList.mp member) with ⟨bare, -, rfl⟩
    exact quote_quote bare
  rw [List.map_congr_left finished, List.map_id]

/-- The words of a set can come in their quotes exactly if these leave them in order. -/
theorem emission_set_map_quote_iff {name : String} (isList : kind? name = some .list)
    (words : TokenSet) :
    emission name (.set (.ofList (words.tokens.map quote))) = emission name (.set words) ↔
      (words.tokens.map quote).Pairwise (· < ·) := by
  rw [emission_eq_iff_map_quote_eq isList rfl rfl, map_quote_ofList_map_quote]
  constructor
  · intro same
    rw [← same]
    exact TokenSet.sorted _
  · intro ordered
    have same : TokenSet.ofList (words.tokens.map quote) = ⟨words.tokens.map quote, ordered⟩ :=
      TokenSet.ext_mem fun _ => TokenSet.mem_ofList
    rw [same]

-- Its quotes bring the keyword to the front.
example :
    emission "img-src" (.set (.ofList ["data:", "self"])) =
        .ok (some (.sources "img-src" ["data:", "'self'"])) ∧
      emission "img-src" (.set (.ofList ["data:", "'self'"])) =
        .ok (some (.sources "img-src" ["'self'", "data:"])) := by
  decide

end Directive

namespace Policy

/-- The policy with the words of its source lists in quotes, where a list or a tuple holds them. -/
def quoted (policy : Policy) : Policy where
  entries := policy.entries.map fun entry => (entry.1, quotedUnder entry.1 entry.2)
  nodup_keys := by simpa [Function.comp_def] using policy.nodup_keys

theorem emissionsOf_map_quotedUnder (entries : List (String × Value)) :
    emissionsOf (entries.map fun entry => (entry.1, quotedUnder entry.1 entry.2)) =
      emissionsOf entries := by
  induction entries with
  | nil => rfl
  | cons entry rest ih =>
      rw [List.map_cons, emissionsOf, emissionsOf, emission_quotedUnder, ih]

theorem compile_quoted (policy : Policy) : policy.quoted.compile = policy.compile := by
  have sameEmissions : policy.quoted.emissions = policy.emissions :=
    emissionsOf_map_quotedUnder policy.entries
  have sameSize : policy.quoted.size = policy.size := List.length_map _
  rw [compile, compile, sameEmissions, sameSize]

/-- Quotes are put around a word once: what is quoted is not quoted again, and two words are written
alike exactly if they are equal or one is the other in the quotes that it takes. A policy is
therefore compiled to the same result, with the same record, when the words in the lists and tuples
of its source lists come in their quotes. -/
theorem quotes_are_written_once :
    (∀ token, quote (quote token) = quote token) ∧
      (∀ left right, quote left = quote right ↔
        left = right ∨ Wraps right left ∨ Wraps left right) ∧
      ∀ policy : Policy, policy.quoted.compile = policy.compile := by
  refine ⟨quote_quote, ?_, compile_quoted⟩
  intro left right
  exact quote_eq_quote_iff

end Policy

end ContentPolicy
