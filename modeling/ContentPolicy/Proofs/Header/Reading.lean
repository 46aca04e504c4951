import ContentPolicy.Proofs.Header.Segments

/-!
# Reading headers

A header can be read back as long as its free texts keep clear of the separators: no source contains
a space, and neither a source nor the report address contains a semicolon. The header is cut at each
semicolon with a space, and each piece at its first space, which ends the name of its directive.
Words that are empty and a bare name leave their traces in the header as well, so it determines what
was emitted: two policies that keep clear of the separators have the same header exactly if they
emit the same directives.
-/

namespace ContentPolicy

open Directive

namespace Directive

theorem space_not_mem_quote {token : String} (spaceless : ' ' ∉ token.toList) :
    ' ' ∉ (quote token).toList := by
  simp only [quote]
  split
  · simpa [String.toList_append] using spaceless
  · exact spaceless

theorem space_not_mem_sandboxToken : ∀ token ∈ sandboxTokens, ' ' ∉ token.toList := by
  decide

namespace Emission

/-- Reads the text of a directive. The name ends at the first space; what follows is one text for a
report address and an integrity requirement, and one word after each space for a source list and a
sandbox. -/
def read? (text : List Char) : Option Emission :=
  let name := String.ofList (text.takeWhile (· ≠ ' '))
  let rest := String.ofList ((text.dropWhile (· ≠ ' ')).drop 1)
  let words := ((Text.splitAtEach (· == ' ') text).drop 1).map String.ofList
  match kind? name with
  | some .list => some (.sources name words)
  | some .boolean => some (.switch name)
  | some .sandbox => some (.sandbox words)
  | some .reportUri => some (.reportUri rest)
  | some .requireSriFor => some (.requireSriFor rest)
  | none => none

/-- Whether the words of a source list contain no space. -/
def Spaceless : Emission → Prop
  | .sources _ words => ∀ word ∈ words, ' ' ∉ word.toList
  | _ => True

theorem detail_eq_nil_or_space (emission : Emission) :
    emission.detail = [] ∨ ∃ rest, emission.detail = ' ' :: rest := by
  cases emission with
  | sources name words => cases words <;> simp [detail]
  | switch name => exact .inl rfl
  | sandbox tokens => cases tokens <;> simp [detail]
  | reportUri uri => exact .inr ⟨_, rfl⟩
  | requireSriFor requirement => exact .inr ⟨_, rfl⟩

theorem WellFormed.ne_space_of_mem_name {emission : Emission} (wellFormed : emission.WellFormed) :
    ∀ character ∈ emission.name.toList, decide (character ≠ ' ') = true := by
  intro character member
  have spaceless := (plain_of_mem_knownNames _ wellFormed.name_mem_knownNames).2.1
  simpa using ne_of_mem_of_not_mem member spaceless

/-- The name of a well-formed directive reaches to the first space of its text. -/
theorem WellFormed.takeWhile_text {emission : Emission} (wellFormed : emission.WellFormed) :
    emission.text.toList.takeWhile (· ≠ ' ') = emission.name.toList := by
  rw [toList_text, List.takeWhile_append_of_pos wellFormed.ne_space_of_mem_name]
  rcases emission.detail_eq_nil_or_space with bare | ⟨rest, begins⟩
  · simp [bare]
  · simp [begins]

theorem WellFormed.dropWhile_text {emission : Emission} (wellFormed : emission.WellFormed) :
    emission.text.toList.dropWhile (· ≠ ' ') = emission.detail := by
  rw [toList_text, List.dropWhile_append_of_pos wellFormed.ne_space_of_mem_name]
  rcases emission.detail_eq_nil_or_space with bare | ⟨rest, begins⟩
  · simp [bare]
  · simp [begins]

theorem splitAtEach_words {first : String} {words : List String} (known : first ∈ knownNames)
    (spaceless : ∀ word ∈ words, ' ' ∉ word.toList) :
    Text.splitAtEach (· == ' ') (" ".intercalate (first :: words)).toList =
      (first :: words).map String.toList := by
  have separator : " ".toList = [' '] := by decide
  rw [String.toList_intercalate, separator]
  apply Text.splitAtEach_intercalate
  · rw [List.map_cons, List.forall_mem_cons, List.forall_mem_map]
    exact ⟨(plain_of_mem_knownNames first known).2.1, spaceless⟩
  · simp

theorem read?_text {emission : Emission} (wellFormed : emission.WellFormed)
    (spaceless : emission.Spaceless) : read? emission.text.toList = some emission := by
  have nameRead := congrArg String.ofList wellFormed.takeWhile_text
  have detailRead := wellFormed.dropWhile_text
  rw [String.ofList_toList] at nameRead
  cases emission with
  | sources name words =>
      have split : Text.splitAtEach (· == ' ') (sources name words).text.toList = _ :=
        splitAtEach_words (mem_knownNames_of_kind? wellFormed.1) spaceless
      simp only [read?, nameRead, Emission.name, wellFormed.1, split]
      simp
  | switch name =>
      have isSwitch : kind? name = some .boolean := wellFormed
      simp only [read?, nameRead, Emission.name, isSwitch]
  | sandbox tokens =>
      have known : ∀ token ∈ tokens, ' ' ∉ token.toList := by
        intro token member
        exact space_not_mem_sandboxToken token (of_decide_eq_true (wellFormed token member))
      have split : Text.splitAtEach (· == ' ') (sandbox tokens).text.toList = _ :=
        splitAtEach_words (wellFormed.name_mem_knownNames) known
      simp only [read?, nameRead, Emission.name, kind?_eq_sandbox_iff.mpr rfl, split]
      simp
  | reportUri uri =>
      simp only [read?, nameRead, Emission.name, kind?_eq_reportUri_iff.mpr rfl, detailRead, detail]
      simp
  | requireSriFor requirement =>
      simp only [read?, nameRead, Emission.name, kind?_eq_requireSriFor_iff.mpr rfl, detailRead,
        detail]
      simp

end Emission

end Directive

/-- The pieces of a header between its semicolons with a space; an empty header has none. -/
def cutHeader (header : List Char) : List (List Char) :=
  if header = [] then [] else Text.splitAtPair ';' ' ' header

/-- The directives that a header states, read piece by piece. -/
def statedIn (header : String) : List (Option Emission) :=
  (cutHeader header.toList).map Emission.read?

theorem cutHeader_headerText {emissions : List Emission}
    (wellFormed : ∀ emission ∈ emissions, emission.WellFormed)
    (clean : ∀ emission ∈ emissions, semicolons emission.text = 0) :
    cutHeader (headerText emissions).toList =
      emissions.map fun emission => emission.text.toList := by
  have bare : (headerText emissions).toList = [] ↔ emissions = [] := by
    rw [String.toList_eq_nil_iff, headerText_eq_empty_iff wellFormed]
  rw [cutHeader]
  split
  · next nothing => rw [bare.mp nothing, List.map_nil]
  · next filled =>
      have separator : directiveSeparator.toList = [';', ' '] := by decide
      have some : emissions.map (fun emission => emission.text.toList) ≠ [] := by
        simpa using fun none => filled (bare.mpr none)
      have semicolonless : ∀ piece ∈ emissions.map (fun emission => emission.text.toList),
          ';' ∉ piece := by
        rw [List.forall_mem_map]
        exact fun emission member => semicolons_eq_zero_iff.mp (clean emission member)
      rw [headerText, String.toList_intercalate, separator, List.map_map]
      exact Text.splitAtPair_intercalate semicolonless some

theorem statedIn_headerText {emissions : List Emission}
    (wellFormed : ∀ emission ∈ emissions, emission.WellFormed)
    (clean : ∀ emission ∈ emissions, semicolons emission.text = 0)
    (spaceless : ∀ emission ∈ emissions, emission.Spaceless) :
    statedIn (headerText emissions) = emissions.map some := by
  rw [statedIn, cutHeader_headerText wellFormed clean, List.map_map]
  apply List.map_congr_left
  intro emission member
  exact Emission.read?_text (wellFormed emission member) (spaceless emission member)

namespace Policy

/-- Whether the free texts of a policy keep clear of the separators: no source contains a semicolon
or a space, and the report address contains no semicolon. -/
structure Plain (policy : Policy) : Prop where
  sources : ∀ entry ∈ policy.entries, kind? entry.1 = some .list →
    ∀ tokens ∈ entry.2.tokens?, ∀ token ∈ tokens, ';' ∉ token.toList ∧ ' ' ∉ token.toList
  address : ∀ entry ∈ policy.entries, kind? entry.1 = some .reportUri →
    ∀ uri ∈ entry.2.text?, ';' ∉ uri.toList

theorem Plain.semicolon_not_mem_freeTexts {policy : Policy} (plain : policy.Plain) :
    ∀ free ∈ policy.freeTexts, ';' ∉ free.toList := by
  intro free member
  rcases List.mem_flatMap.mp member with ⟨entry, entryMember, own⟩
  simp only [Directive.freeTexts] at own
  split at own
  · next isList =>
      cases held : entry.2.tokens? with
      | none => simp [held] at own
      | some tokens =>
          simp only [held, Option.getD_some] at own
          exact (plain.sources entry entryMember isList tokens held free own).1
  · next isReportUri =>
      rw [Option.mem_toList] at own
      exact plain.address entry entryMember isReportUri free own
  · simp at own

theorem Plain.spaceless_of_mem_emitted {policy : Policy} (plain : policy.Plain) :
    ∀ emission ∈ policy.emitted, emission.Spaceless := by
  intro emission member
  rcases List.mem_filterMap.mp member with ⟨entry, entryMember, emitted⟩
  simp only [emitted?] at emitted
  split at emitted
  · next isList =>
      simp only [Option.map_eq_some_iff, Option.filter_eq_some_iff] at emitted
      rcases emitted with ⟨tokens, ⟨held, -⟩, rfl⟩
      simp only [Emission.Spaceless, List.forall_mem_map]
      intro token own
      exact space_not_mem_quote (plain.sources entry entryMember isList tokens held token own).2
  · simp only [Option.ite_none_right_eq_some, Option.some.injEq] at emitted
    rcases emitted with ⟨-, rfl⟩
    trivial
  · rcases Option.map_eq_some_iff.mp emitted with ⟨tokens, -, rfl⟩
    trivial
  · rcases Option.map_eq_some_iff.mp emitted with ⟨uri, -, rfl⟩
    trivial
  · rcases Option.map_eq_some_iff.mp emitted with ⟨requirement, -, rfl⟩
    trivial
  · cases emitted

/-- The directives that a policy emits can be read off its header. -/
theorem statedIn_of_compiled {policy : Policy} (plain : policy.Plain) {text : String}
    (compiled : policy.compile.value = .ok text) : statedIn text = policy.emitted.map some := by
  rcases value_compile_eq_ok_iff.mp compiled with ⟨compiles, rfl⟩
  exact statedIn_headerText (fun _ => wellFormed_of_mem_emitted compiles)
    (semicolons_text_emitted_eq_zero compiles plain.semicolon_not_mem_freeTexts)
    plain.spaceless_of_mem_emitted

/-- Two policies whose free texts keep clear of the separators have the same header exactly if they
emit the same directives, and each header read piece by piece gives back what was emitted. -/
theorem value_compile_eq_iff_emitted_eq {first second : Policy} (firstCompiles : first.Compiles)
    (secondCompiles : second.Compiles) (firstPlain : first.Plain) (secondPlain : second.Plain) :
    (first.compile.value = second.compile.value ↔ first.emitted = second.emitted) ∧
      (∀ text, first.compile.value = .ok text → statedIn text = first.emitted.map some) ∧
      ∀ text, second.compile.value = .ok text → statedIn text = second.emitted.map some := by
  refine ⟨⟨fun same => ?_, fun same => ?_⟩, fun _ => statedIn_of_compiled firstPlain,
    fun _ => statedIn_of_compiled secondPlain⟩
  · -- The common header is read back as what either policy emits.
    rcases firstCompiles with ⟨text, compiled⟩
    have firstRead := statedIn_of_compiled firstPlain compiled
    have secondRead := statedIn_of_compiled secondPlain (same ▸ compiled)
    have sameViews := firstRead.symm.trans secondRead
    exact (List.map_inj_right fun _ _ => Option.some.inj).mp sameViews
  · rw [compile_of_compiles firstCompiles, compile_of_compiles secondCompiles, same]

/-- A policy with an empty source, an empty source list and an empty report address. -/
def sparse : Policy :=
  .ofList [("img-src", .list ["", "self"]), ("font-src", .tuple []), ("report-uri", .string "")]

/-- A policy that emits the same, with other values. -/
def sparseQuoted : Policy :=
  .ofList [("img-src", .tuple ["", "'self'"]), ("report-uri", .string "")]

theorem statedIn_sparse :
    sparse.compile.value = sparseQuoted.compile.value ∧
      statedIn "img-src  'self'; report-uri " =
        [some (.sources "img-src" ["", "'self'"]), some (.reportUri "")] := by
  have compiled : sparse.compile.value = .ok "img-src  'self'; report-uri " := by rfl
  have compiledQuoted : sparseQuoted.compile.value = .ok "img-src  'self'; report-uri " := by rfl
  have plain : sparse.Plain := ⟨by decide, by decide⟩
  have plainQuoted : sparseQuoted.Plain := ⟨by decide, by decide⟩
  have law := value_compile_eq_iff_emitted_eq ⟨_, compiled⟩ ⟨_, compiledQuoted⟩ plain plainQuoted
  refine ⟨law.1.mpr (by decide), ?_⟩
  rw [law.2.1 _ compiled]
  decide

end Policy

end ContentPolicy
