import ContentPolicy.Proofs.Header.Emitted
import ContentPolicy.Proofs.Text.Split

/-!
# Semicolons in headers

A reader of a header takes every semicolon for the end of a directive. Apart from those that part
two directives, the semicolons of a header are those of the texts that are taken up unchecked: the
tokens of source lists and the report address. The header therefore falls into the directives that
were emitted exactly if none of these texts contains a semicolon.
-/

namespace ContentPolicy

open Directive

def semicolons (text : String) : Nat := text.toList.count ';'

theorem semicolons_eq_zero_iff {text : String} : semicolons text = 0 ↔ ';' ∉ text.toList :=
  List.count_eq_zero

theorem semicolons_append (first second : String) :
    semicolons (first ++ second) = semicolons first + semicolons second := by
  simp [semicolons, String.toList_append, List.count_append]

theorem sum_semicolons_eq_zero_iff {texts : List String} :
    (texts.map semicolons).sum = 0 ↔ ∀ text ∈ texts, ';' ∉ text.toList := by
  simp [List.sum_eq_zero_iff_forall_eq_nat, semicolons_eq_zero_iff]

namespace Directive

/-- The texts of an entry that a header takes up unchecked. -/
def freeTexts (name : String) (value : Value) : List String :=
  match kind? name with
  | some .list => value.tokens?.getD []
  | some .reportUri => value.text?.toList
  | _ => []

theorem semicolons_quote (token : String) : semicolons (quote token) = semicolons token := by
  have mark : semicolons "'" = 0 := by decide
  simp only [quote]
  split
  · rw [semicolons_append, semicolons_append, mark, Nat.zero_add, Nat.add_zero]
  · rfl

/-- No name and no checked word contains a semicolon. -/
theorem semicolons_checked :
    (∀ name ∈ knownNames, semicolons name = 0) ∧
      (∀ token ∈ sandboxTokens, semicolons token = 0) ∧
      ∀ requirement ∈ sriValues, semicolons requirement = 0 := by
  decide

namespace Emission

/-- The words of an emission that no check restricts. -/
def freeWords : Emission → List String
  | .sources _ words => words
  | .reportUri uri => [uri]
  | _ => []

theorem count_semicolon_flatMap (words : List String) :
    (words.flatMap fun word => ' ' :: word.toList).count ';' = (words.map semicolons).sum := by
  induction words with
  | nil => rfl
  | cons word rest ih =>
      rw [List.flatMap_cons, List.count_append, ih, List.count_cons_of_ne (by decide)]
      rfl

theorem count_semicolon_detail {emission : Emission} (wellFormed : emission.WellFormed) :
    emission.detail.count ';' = (emission.freeWords.map semicolons).sum := by
  cases emission with
  | sources name words => exact count_semicolon_flatMap words
  | switch name => rfl
  | sandbox tokens =>
      have none : ∀ token ∈ tokens, semicolons token = 0 := by
        intro token member
        exact semicolons_checked.2.1 token (of_decide_eq_true (wellFormed token member))
      rw [detail, count_semicolon_flatMap]
      simpa [freeWords, List.sum_eq_zero_iff_forall_eq_nat] using none
  | reportUri uri => simp [detail, freeWords, semicolons]
  | requireSriFor requirement =>
      have none := semicolons_checked.2.2 requirement (of_decide_eq_true wellFormed)
      rw [detail, List.count_cons_of_ne (by decide)]
      exact none

/-- The semicolons of a well-formed emission are those of its free words. -/
theorem WellFormed.semicolons_text {emission : Emission} (wellFormed : emission.WellFormed) :
    semicolons emission.text = (emission.freeWords.map semicolons).sum := by
  have name : emission.name.toList.count ';' = 0 :=
    semicolons_checked.1 _ wellFormed.name_mem_knownNames
  rw [semicolons, toList_text, List.count_append, name, Nat.zero_add,
    count_semicolon_detail wellFormed]

end Emission

/-- The free words that an entry emits are its free texts, if need be in quotes. -/
theorem semicolons_freeWords {name : String} {value : Value} (taken : Takes (kind? name) value) :
    ((emitted? name value).toList.flatMap Emission.freeWords).map semicolons =
      (freeTexts name value).map semicolons := by
  simp only [emitted?, freeTexts]
  cases found : kind? name with
  | none => simp
  | some kind =>
      rw [found] at taken
      cases kind with
      | boolean =>
          simp only
          split <;> simp [Emission.freeWords]
      | list =>
          rcases Option.isSome_iff_exists.mp taken with ⟨tokens, held⟩
          cases tokens <;>
            simp [held, Option.filter, Emission.freeWords, semicolons_quote]
      | sandbox =>
          rcases taken with ⟨tokens, held, -⟩
          simp [held, Emission.freeWords]
      | reportUri =>
          rcases taken with ⟨uri, held⟩
          simp [held, Emission.freeWords]
      | requireSriFor =>
          rcases taken with ⟨requirement, held, -⟩
          simp [held, Emission.freeWords]

end Directive

/-- A header has one semicolon between each two directives, and those of the free words. -/
theorem semicolons_headerText {emissions : List Emission}
    (wellFormed : ∀ emission ∈ emissions, emission.WellFormed) :
    semicolons (headerText emissions) =
      (emissions.length - 1) + ((emissions.flatMap Emission.freeWords).map semicolons).sum := by
  have separator : directiveSeparator.toList.count ';' = 1 := by decide
  have texts : (emissions.map fun emission => semicolons emission.text).sum =
      ((emissions.flatMap Emission.freeWords).map semicolons).sum := by
    induction emissions with
    | nil => rfl
    | cons first rest ih =>
        rw [List.forall_mem_cons] at wellFormed
        rw [List.map_cons, List.sum_cons, ih wellFormed.2, wellFormed.1.semicolons_text,
          List.flatMap_cons, List.map_append, List.sum_append]
  rw [← texts, semicolons, headerText, String.toList_intercalate, Text.count_intercalate,
    separator, Nat.mul_one, List.length_map, List.length_map, List.map_map, List.map_map]
  rfl

/-- The segments of a header that states some directives and nothing else: their texts, each after
the first behind a space. -/
def segments : List Emission → List (List Char)
  | [] => []
  | first :: rest =>
    first.text.toList :: rest.map fun emission => ' ' :: emission.text.toList

theorem length_segments (emissions : List Emission) :
    (segments emissions).length = emissions.length := by
  cases emissions <;> simp [segments]

theorem toList_headerText (emissions : List Emission) :
    (headerText emissions).toList = [';'].intercalate (segments emissions) := by
  have separator : directiveSeparator.toList = [';', ' '] := by decide
  rw [headerText, String.toList_intercalate, separator]
  cases emissions with
  | nil => rfl
  | cons first rest =>
      rw [List.map_cons, List.map_cons, Text.intercalate_cons_separator, List.map_map,
        List.map_map]
      rfl

theorem splitAtEach_headerText {emissions : List Emission} (some : emissions ≠ [])
    (clean : ∀ emission ∈ emissions, semicolons emission.text = 0) :
    Text.splitAtEach (· == ';') (headerText emissions).toList = segments emissions := by
  rw [toList_headerText]
  apply Text.splitAtEach_intercalate
  · intro segment member
    cases emissions with
    | nil => exact absurd rfl some
    | cons first rest =>
        rw [List.forall_mem_cons] at clean
        simp only [segments, List.mem_cons, List.mem_map] at member
        rcases member with rfl | ⟨emission, later, rfl⟩
        · exact semicolons_eq_zero_iff.mp clean.1
        · have bare := semicolons_eq_zero_iff.mp (clean.2 emission later)
          simpa using bare
  · intro none
    have length := length_segments emissions
    rw [none, List.length_nil, eq_comm, List.length_eq_zero_iff] at length
    exact some length

namespace Policy

/-- The texts that the header of a policy takes up unchecked: the tokens of its source lists and
its report address. -/
def freeTexts (policy : Policy) : List String :=
  policy.entries.flatMap fun entry => Directive.freeTexts entry.1 entry.2

theorem semicolons_freeWords_emitted {policy : Policy} (compiles : policy.Compiles) :
    (policy.emitted.flatMap Emission.freeWords).map semicolons =
      policy.freeTexts.map semicolons := by
  have taken := takes_of_compiles compiles
  simp only [emitted, freeTexts]
  generalize policy.entries = entries at taken ⊢
  induction entries with
  | nil => rfl
  | cons entry rest ih =>
      rw [List.forall_mem_cons] at taken
      have own := semicolons_freeWords taken.1
      rw [List.flatMap_cons, List.map_append, ← ih taken.2, ← own, List.filterMap_cons]
      cases emitted? entry.1 entry.2 <;> simp

theorem semicolons_text_emitted_eq_zero {policy : Policy} (compiles : policy.Compiles)
    (clean : ∀ free ∈ policy.freeTexts, ';' ∉ free.toList) :
    ∀ emission ∈ policy.emitted, semicolons emission.text = 0 := by
  intro emission member
  rw [(wellFormed_of_mem_emitted compiles member).semicolons_text, sum_semicolons_eq_zero_iff]
  rw [← sum_semicolons_eq_zero_iff, ← semicolons_freeWords_emitted compiles,
    sum_semicolons_eq_zero_iff] at clean
  intro word free
  exact clean word (List.mem_flatMap.mpr ⟨emission, member, free⟩)

/-- The semicolons of a header are those between its directives and those of the free texts. A
header that states anything therefore falls into its directives at the semicolons exactly if no free
text contains one, and otherwise into more segments than there are directives. -/
theorem semicolons_of_compiled {policy : Policy} {text : String}
    (compiled : policy.compile.value = .ok text) :
    semicolons text = (policy.emitted.length - 1) + (policy.freeTexts.map semicolons).sum ∧
      (policy.emitted ≠ [] →
        (Text.splitAtEach (· == ';') text.toList = segments policy.emitted ↔
            ∀ free ∈ policy.freeTexts, ';' ∉ free.toList) ∧
          ((Text.splitAtEach (· == ';') text.toList).length = policy.emitted.length ↔
            ∀ free ∈ policy.freeTexts, ';' ∉ free.toList)) := by
  rcases value_compile_eq_ok_iff.mp compiled with ⟨compiles, rfl⟩
  have total := semicolons_headerText fun _ => wellFormed_of_mem_emitted compiles
  rw [semicolons_freeWords_emitted compiles] at total
  refine ⟨total, fun some => ?_⟩
  have filled := List.length_pos_iff.mpr some
  -- One piece more than semicolons, so each semicolon in a free text is a piece too many.
  have pieces := Text.length_splitAtEach (· == ';') (headerText policy.emitted).toList
  rw [← List.count_eq_countP, ← semicolons, total] at pieces
  have clean_of_length : (Text.splitAtEach (· == ';') (headerText policy.emitted).toList).length =
      policy.emitted.length → ∀ free ∈ policy.freeTexts, ';' ∉ free.toList := by
    intro same
    rw [← sum_semicolons_eq_zero_iff]
    omega
  have split_of_clean : (∀ free ∈ policy.freeTexts, ';' ∉ free.toList) →
      Text.splitAtEach (· == ';') (headerText policy.emitted).toList =
        segments policy.emitted := by
    intro clean
    exact splitAtEach_headerText some (semicolons_text_emitted_eq_zero compiles clean)
  refine ⟨⟨fun same => clean_of_length ?_, split_of_clean⟩, ⟨clean_of_length, fun clean => ?_⟩⟩
  · rw [same, length_segments]
  · rw [split_of_clean clean, length_segments]

/-- A policy in which one source carries a directive of its own. -/
def smuggling : Policy :=
  .ofList [("img-src", .list ["data:;sandbox"]), ("report-uri", .string "/csp")]

theorem splitAtEach_smuggling :
    smuggling.compile.value = .ok "img-src data:;sandbox; report-uri /csp" ∧
      semicolons "img-src data:;sandbox; report-uri /csp" = (smuggling.emitted.length - 1) + 1 ∧
      Text.splitAtEach (· == ';') "img-src data:;sandbox; report-uri /csp".toList ≠
        segments smuggling.emitted := by
  have compiled : smuggling.compile.value = .ok "img-src data:;sandbox; report-uri /csp" := by
    rfl
  have counted := semicolons_of_compiled compiled
  have free : smuggling.freeTexts = ["data:;sandbox", "/csp"] := by decide
  refine ⟨compiled, counted.1.trans (by rw [free]; rfl), fun same => ?_⟩
  have clean := (counted.2 (by decide)).1.mp same
  rw [free] at clean
  exact absurd (clean "data:;sandbox" (by simp)) (by decide)

end Policy

end ContentPolicy
