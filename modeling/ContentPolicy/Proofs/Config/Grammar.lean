import ContentPolicy.Config.Json
import ContentPolicy.Proofs.Policy.Grammar
import Mathlib.Data.List.Nodup

/-!
# The grammar of configurations

The texts that write a configuration: an object whose fields are known and distinct, or an array
with at most one value for each field. The reader of policies is given the text of a policy alone,
while the reader of configurations takes the same text up as a part of a larger document. The main
statement says that exactly the texts of the grammar are read, with the policies that the reader of
policies would find in their own texts.
-/

namespace ContentPolicy

open Directive Json

namespace PolicySource

/-- The texts of a value of a configuration. The text of a policy is one that the reader of policies
accepts on its own. -/
inductive IsText : Option PolicySource → List Char → Prop where
  | unset : IsText none "null".toList
  | verbatim {header : String} {own : List Char} (written : Quoted.IsText header own) :
      IsText (some (.verbatim header)) own
  | fixed {policy : Policy} {inner : List Char}
      (accepted : Policy.ofJson (String.ofList ('{' :: (inner ++ ['}']))) = .ok policy) :
      IsText (some (.fixed policy)) ('{' :: (inner ++ ['}']))

inductive HeldBy : Option PolicySource → Document → Prop where
  | unset : HeldBy none (.scalar .null)
  | verbatim (header : String) : HeldBy (some (.verbatim header)) (.word header)
  | fixed {entries : List (String × Value)} {members : List (String × Document)}
      (held : Policy.HeldBy entries members) :
      HeldBy (some (.fixed (.ofList entries))) (.object members)

theorem ofDocument?_eq_some_iff {document : Document} {source : Option PolicySource} :
    ofDocument? document = some source ↔ HeldBy source document := by
  constructor
  · intro held
    simp only [ofDocument?] at held
    split at held
    · cases held
      exact .unset
    · cases held
      exact .verbatim _
    · rw [Policy.ofMembers?, Option.map_map, Option.map_eq_some_iff] at held
      rcases held with ⟨entries, found, rfl⟩
      exact .fixed (Policy.entriesOf?_eq_some_iff.mp found)
    · cases held
  · intro held
    cases held with
    | unset => rfl
    | verbatim header => rfl
    | fixed held => simp [ofDocument?, Policy.ofMembers?, Policy.entriesOf?_eq_some_iff.mpr held]

theorem isText_fixed_iff {policy : Policy} {own : List Char} :
    IsText (some (.fixed policy)) own ↔
      ∃ entries, IsObjectText Value.IsText entries own ∧ policy = OrderedMap.ofList entries := by
  constructor
  · intro written
    cases written with
    | fixed accepted =>
        rcases Policy.ofJson_eq_ok_iff_isText.mp accepted with ⟨entries, text, rfl⟩
        exact ⟨entries, isWholeText_braces_iff.mp text, rfl⟩
  · rintro ⟨entries, ⟨inner, parts, rfl⟩, rfl⟩
    apply IsText.fixed
    apply Policy.ofJson_eq_ok_iff_isText.mpr
    exact ⟨entries, isWholeText_braces_iff.mpr ⟨inner, parts, rfl⟩, rfl⟩

theorem recognizes {μ : Type} {budget : Nat} :
    Recognizes (readDocument (μ := μ) (budget + 2)) HeldBy IsText where
  exists_document_iff := by
    intro source text rest
    have entries := (Value.recognizes (μ := μ) (Nat.succ_pos budget)).object
    constructor
    · rintro ⟨document, read, held⟩
      cases held with
      | unset =>
          rcases (readDocument_eq_keyword_iff rfl).mp read with ⟨blanks, blank, rfl⟩
          exact ⟨blanks, _, blank, .unset, rfl⟩
      | verbatim header =>
          rcases readDocument_eq_word_iff.mp read with ⟨blanks, own, blank, written, rfl⟩
          exact ⟨blanks, own, blank, .verbatim written, rfl⟩
      | fixed held =>
          rcases entries.exists_document_iff.mp ⟨_, read, _, rfl, held⟩ with
            ⟨blanks, own, blank, written, rfl⟩
          exact ⟨blanks, own, blank, isText_fixed_iff.mpr ⟨_, written, rfl⟩, rfl⟩
    · rintro ⟨blanks, own, blank, written, rfl⟩
      rcases source with _ | source
      · cases written
        exact ⟨_, (readDocument_eq_keyword_iff rfl).mpr ⟨blanks, blank, rfl⟩, .unset⟩
      · cases source with
        | verbatim header =>
            cases written with
            | verbatim written =>
                exact ⟨_, readDocument_eq_word_iff.mpr ⟨blanks, own, blank, written, rfl⟩,
                  .verbatim header⟩
        | fixed policy =>
            rcases isText_fixed_iff.mp written with ⟨_, fields, rfl⟩
            rcases entries.exists_document_iff.mpr ⟨blanks, own, blank, fields, rfl⟩ with
              ⟨_, read, members, rfl, held⟩
            exact ⟨_, read, .fixed held⟩
        | perDirective directives => cases written
        | computed compute => cases written
  exists_mark := by
    rintro source own written
    cases written with
    | unset => exact ⟨'n', _, rfl, by decide, by decide⟩
    | verbatim written =>
        rcases written.exists_cons with ⟨inner, rfl⟩
        exact ⟨'"', inner, rfl, by decide, by decide⟩
    | fixed accepted => exact ⟨'{', _, rfl, by decide, by decide⟩

theorem recognizes_value :
    Recognizes (readDocument (μ := Mismatch) (nestingLimit - 1)) HeldBy IsText :=
  recognizes

theorem read_eq_ok_iff {source : Option PolicySource} {text rest : List Char} :
    read text = .ok (source, rest) ↔
      ∃ document, readDocument (μ := Mismatch) (nestingLimit - 1) text = .ok (document, rest) ∧
        HeldBy source document := by
  simp only [read, ← ofDocument?_eq_some_iff]
  cases readDocument (μ := Mismatch) (nestingLimit - 1) text with
  | error failure => simp
  | ok found =>
      rcases found with ⟨document, behind⟩
      cases held : ofDocument? document with
      | none => simp [held]
      | some other => simp [held, and_comm]

theorem read_eq_ok_iff_isText {source : Option PolicySource} {text rest : List Char} :
    read text = .ok (source, rest) ↔
      ∃ blanks own, Blanks blanks ∧ IsText source own ∧ text = blanks ++ (own ++ rest) := by
  rw [read_eq_ok_iff, recognizes_value.exists_document_iff]

end PolicySource

namespace Config

/-- The values that a text gives, each with the disposition whose field it stands in. -/
abbrev Given := List (Disposition × Option PolicySource)

/-- What is given, under the names of the fields. -/
def Given.named (given : Given) : List (String × Option PolicySource) :=
  given.map fun field => (field.1.field, field.2)

/-- The configuration of what is given; a source that is missing or null is unset. -/
def ofGiven (given : Given) : Config :=
  ⟨(given.lookup .enforced).join, (given.lookup .reportOnly).join⟩

/-- The texts of a configuration: an object that gives each field at most once, or an array of the
first of the two values, or both, or none. -/
inductive IsText : Given → List Char → Prop where
  | object {given : Given} {own : List Char} (distinct : (given.map Prod.fst).Nodup)
      (written : IsObjectText PolicySource.IsText given.named own) : IsText given own
  | row {sources : List (Option PolicySource)} {own : List Char} (short : sources.length ≤ 2)
      (written : IsArrayText PolicySource.IsText sources own) :
      IsText ([.enforced, .reportOnly].zip sources) own

inductive HeldBy : Given → Document → Prop where
  | object {given : Given} {document : Document} (distinct : (given.map Prod.fst).Nodup)
      (held : HeldByObject PolicySource.HeldBy given.named document) : HeldBy given document
  | row {sources : List (Option PolicySource)} {document : Document} (short : sources.length ≤ 2)
      (held : HeldByArray PolicySource.HeldBy sources document) :
      HeldBy ([.enforced, .reportOnly].zip sources) document

theorem recognizes : Recognizes (readDocument (μ := Mismatch) nestingLimit) HeldBy IsText where
  exists_document_iff := by
    have values := PolicySource.recognizes_value
    intro given text rest
    constructor
    · rintro ⟨document, read, held⟩
      cases held with
      | object distinct held =>
          rcases values.object.exists_document_iff.mp ⟨document, read, held⟩ with
            ⟨blanks, own, blank, written, rfl⟩
          exact ⟨blanks, own, blank, .object distinct written, rfl⟩
      | row short held =>
          rcases values.array.exists_document_iff.mp ⟨document, read, held⟩ with
            ⟨blanks, own, blank, written, rfl⟩
          exact ⟨blanks, own, blank, .row short written, rfl⟩
    · rintro ⟨blanks, own, blank, written, rfl⟩
      cases written with
      | object distinct written =>
          rcases values.object.exists_document_iff.mpr ⟨blanks, own, blank, written, rfl⟩ with
            ⟨document, read, held⟩
          exact ⟨document, read, .object distinct held⟩
      | row short written =>
          rcases values.array.exists_document_iff.mpr ⟨blanks, own, blank, written, rfl⟩ with
            ⟨document, read, held⟩
          exact ⟨document, read, .row short held⟩
  exists_mark := by
    rintro given own written
    cases written with
    | object distinct written =>
        rcases written with ⟨inner, -, rfl⟩
        exact ⟨'{', _, rfl, by decide, by decide⟩
    | row short written =>
        rcases written with ⟨inner, -, rfl⟩
        exact ⟨'[', _, rfl, by decide, by decide⟩

theorem ofField?_eq_some_iff {name : String} {field : Disposition} :
    Disposition.ofField? name = some field ↔ field.field = name := by
  have distinct : Disposition.reportOnly.field ≠ Disposition.enforced.field := by decide
  simp only [Disposition.ofField?]
  split_ifs with enforced reportOnly
  · cases field <;> simp [enforced, distinct]
  · cases field <;> simp [reportOnly, distinct.symm]
  · cases field <;> simp [Ne.symm enforced, Ne.symm reportOnly]

def Fields.ofGiven (given : Given) : Fields := ⟨given.lookup .enforced, given.lookup .reportOnly⟩

/-- The fields with a further member of an object, if it has the name of one that is still missing
and the document of a source. -/
def Fields.take? (fields : Fields) (member : String × Document) : Option Fields :=
  (Disposition.ofField? member.1).bind fun field =>
    if fields.has field then none
    else (PolicySource.ofDocument? member.2).map (fields.set field)

theorem readField_eq_ok_iff {fields next : Fields} {name : String} {text rest : List Char} :
    readField fields name text = .ok (next, rest) ↔
      ∃ document, Json.readField text = .ok (document, rest) ∧
        fields.take? (name, document) = some next := by
  simp only [readField, Fields.take?]
  cases Disposition.ofField? name with
  | none => simp
  | some field =>
      by_cases given : fields.has field = true
      · simp [given]
      · simp only [given, Option.bind_some, Json.readField, bind_eq_ok_iff]
        cases readColon (μ := Mismatch) text with
        | error failure => simp
        | ok behind =>
            simp only [Bool.false_eq_true, if_false, map_eq_ok_iff, Prod.exists, Prod.mk.injEq,
              PolicySource.read_eq_ok_iff, ← PolicySource.ofDocument?_eq_some_iff,
              Option.map_eq_some_iff, Except.ok.injEq, exists_eq_left']
            grind

theorem lookup_eq_none_iff_not_mem {given : Given} {field : Disposition} :
    given.lookup field = none ↔ field ∉ given.map Prod.fst := by
  simp only [List.lookup_eq_none_iff, List.mem_map, bne_iff_ne, ne_eq, not_exists, not_and]
  exact ⟨fun absent given member same => absent given member same.symm,
    fun absent given member same => absent given member same.symm⟩

theorem has_ofGiven_iff {given : Given} {field : Disposition} :
    (Fields.ofGiven given).has field = false ↔ field ∉ given.map Prod.fst := by
  rw [← lookup_eq_none_iff_not_mem]
  cases field <;> simp only [Fields.has, Fields.ofGiven, Option.isSome_eq_false_iff,
    Option.isNone_iff_eq_none]

theorem set_ofGiven {given : Given} {field : Disposition} (missing : field ∉ given.map Prod.fst)
    (source : Option PolicySource) :
    (Fields.ofGiven given).set field source = Fields.ofGiven (given ++ [(field, source)]) := by
  have absent := lookup_eq_none_iff_not_mem.mpr missing
  have other : (Disposition.enforced == Disposition.reportOnly) = false := rfl
  have another : (Disposition.reportOnly == Disposition.enforced) = false := rfl
  cases field with
  | enforced =>
      simp [Fields.set, Fields.ofGiven, List.lookup_append, List.lookup_cons, absent, another]
  | reportOnly =>
      simp [Fields.set, Fields.ofGiven, List.lookup_append, List.lookup_cons, absent, other]

theorem take?_ofGiven_eq_some_iff {given : Given} {member : String × Document} {next : Fields} :
    (Fields.ofGiven given).take? member = some next ↔
      ∃ field source, field ∉ given.map Prod.fst ∧ field.field = member.1 ∧
        PolicySource.HeldBy source member.2 ∧
          next = Fields.ofGiven (given ++ [(field, source)]) := by
  simp only [Fields.take?, Option.bind_eq_some_iff, ofField?_eq_some_iff]
  constructor
  · rintro ⟨field, named, taken⟩
    by_cases absent : (Fields.ofGiven given).has field = true
    · simp [absent] at taken
    · rw [if_neg absent, Option.map_eq_some_iff] at taken
      rcases taken with ⟨source, held, rfl⟩
      have missing := has_ofGiven_iff.mp (Bool.eq_false_iff.mpr absent)
      exact ⟨field, source, missing, named, PolicySource.ofDocument?_eq_some_iff.mp held,
        set_ofGiven missing source⟩
  · rintro ⟨field, source, missing, named, held, rfl⟩
    refine ⟨field, named, ?_⟩
    rw [if_neg (by simp [has_ofGiven_iff.mpr missing]), ← set_ofGiven missing,
      PolicySource.ofDocument?_eq_some_iff.mpr held, Option.map_some]

/-- The members of an object are taken up exactly if they hold fields that differ from each other
and from those before them. -/
theorem foldlM_take?_eq_some_iff {earlier : Given} (distinct : (earlier.map Prod.fst).Nodup)
    {members : List (String × Document)} {result : Fields} :
    members.foldlM Fields.take? (Fields.ofGiven earlier) = some result ↔
      ∃ given : Given, ((earlier ++ given).map Prod.fst).Nodup ∧
        HeldByMembers PolicySource.HeldBy given.named members ∧
          result = Fields.ofGiven (earlier ++ given) := by
  -- The members are taken first to last, so what has been given before them grows at its end.
  induction members generalizing earlier with
  | nil =>
      rw [List.foldlM_nil, Option.pure_def, Option.some.injEq]
      constructor
      · rintro rfl
        exact ⟨[], by simpa using distinct, .nil, by simp⟩
      · rintro ⟨given, -, held, rfl⟩
        rw [List.map_eq_nil_iff.mp (List.forall₂_nil_right_iff.mp held), List.append_nil]
  | cons member rest ih =>
      have longer : ∀ {field : Disposition} {source : Option PolicySource},
          ((earlier ++ [(field, source)]).map Prod.fst).Nodup ↔ field ∉ earlier.map Prod.fst := by
        intro field source
        rw [List.map_append, List.map_singleton, ← List.concat_eq_append, List.nodup_concat]
        exact and_iff_left distinct
      rw [List.foldlM_cons, Option.bind_eq_bind, Option.bind_eq_some_iff]
      constructor
      · rintro ⟨next, taken, others⟩
        rcases take?_ofGiven_eq_some_iff.mp taken with ⟨field, source, missing, named, held, rfl⟩
        rcases (ih (longer.mpr missing)).mp others with ⟨given, distinct, othersHeld, rfl⟩
        rw [List.append_assoc, List.singleton_append] at distinct ⊢
        exact ⟨(field, source) :: given, distinct, .cons ⟨named, held⟩ othersHeld, rfl⟩
      · rintro ⟨given, distinct, held, rfl⟩
        cases given with
        | nil => cases held
        | cons first given =>
            rcases first with ⟨field, source⟩
            rcases List.forall₂_cons.mp held with ⟨⟨named, firstHeld⟩, othersHeld⟩
            have same : earlier ++ (field, source) :: given =
                (earlier ++ [(field, source)]) ++ given := by simp
            rw [same] at distinct
            have missing : field ∉ earlier.map Prod.fst := by
              rw [List.map_append] at distinct
              exact longer.mp (List.nodup_append.mp distinct).1
            refine ⟨_, take?_ofGiven_eq_some_iff.mpr
              ⟨field, source, missing, named, firstHeld, rfl⟩, ?_⟩
            exact (ih (longer.mpr missing)).mpr ⟨given, distinct, othersHeld, congrArg _ same⟩

/-- The members of an object are read up to its brace exactly if they write known and distinct
fields. -/
theorem readMembers_eq_ok_iff {fields : Fields} {text rest : List Char} :
    readMembers readField ⟨none, none⟩ text = .ok (fields, rest) ↔
      ∃ (given : Given) (own : List Char), (given.map Prod.fst).Nodup ∧
        Parts (IsMemberText PolicySource.IsText) true given.named own ∧
          text = own ++ '}' :: rest ∧ fields = Fields.ofGiven given := by
  have values := PolicySource.recognizes_value
  have nothing : (⟨none, none⟩ : Fields) = Fields.ofGiven [] := rfl
  have distinct : (([] : Given).map Prod.fst).Nodup := List.nodup_nil
  rw [readMembers, nothing, foldMembers_eq_ok_iff Fields.take? readField_eq_ok_iff]
  simp only [foldlM_take?_eq_some_iff distinct, List.nil_append]
  constructor
  · rintro ⟨members, found, given, distinct, held, rfl⟩
    rcases values.exists_members_iff.mp ⟨members, found, held⟩ with ⟨own, parts, rfl⟩
    exact ⟨given, own, distinct, parts, rfl, rfl⟩
  · rintro ⟨given, own, distinct, parts, rfl, rfl⟩
    rcases values.exists_members_iff.mpr ⟨own, parts, rfl⟩ with ⟨members, found, held⟩
    exact ⟨members, found, given, distinct, held, rfl⟩

theorem exists_lead_of_read {first : Bool} {source : Option PolicySource}
    {text inner rest : List Char} (found : nextItem (μ := Mismatch) first text = .ok (.part inner))
    (read : PolicySource.read inner = .ok (source, rest)) :
    ∃ lead own, Lead first lead ∧ PolicySource.IsText source own ∧
      text = lead ++ (own ++ rest) := by
  rcases exists_lead_of_nextItem found with ⟨lead, leads, rfl⟩
  rcases PolicySource.read_eq_ok_iff_isText.mp read with ⟨blanks, own, blank, written, rfl⟩
  exact ⟨lead ++ blanks, own, leads.append blank, written, by simp⟩

theorem read_append {first : Bool} {source : Option PolicySource} {lead own : List Char}
    (leads : Lead first lead) (written : PolicySource.IsText source own) (rest : List Char) :
    nextItem (μ := Mismatch) first (lead ++ (own ++ rest)) = .ok (.part (own ++ rest)) ∧
      PolicySource.read (own ++ rest) = .ok (source, rest) := by
  constructor
  · rcases PolicySource.recognizes_value.exists_mark written with
      ⟨mark, inner, rfl, notBlank, notClosed⟩
    exact nextItem_append leads notBlank notClosed (inner ++ rest)
  · exact PolicySource.read_eq_ok_iff_isText.mpr ⟨[], own, blanks_nil, written, rfl⟩

theorem closeArray_eq_ok_iff {config result : Config} {text rest : List Char} :
    closeArray config text = .ok (result, rest) ↔
      result = config ∧ ∃ blanks, Blanks blanks ∧ text = blanks ++ ']' :: rest := by
  rw [← skipBlanks_eq_mark_iff (by decide), closeArray]
  cases skipBlanks text with
  | nil => simp
  | cons mark behind => by_cases closes : mark = ']' <;> simp [closes, eq_comm]

/-- An array that is read has at most two values. -/
theorem exists_sources_of_readRow {config : Config} {text rest : List Char}
    (read : readRow text = .ok (config, rest)) :
    ∃ (sources : List (Option PolicySource)) (own : List Char), sources.length ≤ 2 ∧
      Parts PolicySource.IsText true sources own ∧ text = own ++ ']' :: rest ∧
        config = ofGiven ([.enforced, .reportOnly].zip sources) := by
  simp only [readRow] at read
  split at read
  · cases read
  · next behind closed =>
      cases read
      rcases nextItem_eq_closed_iff.mp closed with ⟨blanks, blank, rfl⟩
      exact ⟨[], blanks, by simp, .closed blank, rfl, rfl⟩
  · next inner part =>
      split at read
      · cases read
      · next enforced behind first =>
          rcases exists_lead_of_read part first with ⟨lead, own, leads, written, rfl⟩
          split at read
          · cases read
          · next after closed =>
              cases read
              rcases nextItem_eq_closed_iff.mp closed with ⟨blanks, blank, rfl⟩
              exact ⟨[enforced], _, by simp, .more leads written (.closed blank), by simp, rfl⟩
          · next others nextPart =>
              split at read
              · cases read
              · next reportOnly after second =>
                  rcases exists_lead_of_read nextPart second with
                    ⟨nextLead, nextOwn, nextLeads, nextWritten, rfl⟩
                  rcases closeArray_eq_ok_iff.mp read with ⟨rfl, blanks, blank, rfl⟩
                  exact ⟨[enforced, reportOnly], _, by simp,
                    .more leads written (.more nextLeads nextWritten (.closed blank)), by simp,
                    rfl⟩

theorem readRow_append {sources : List (Option PolicySource)} {own : List Char}
    (short : sources.length ≤ 2) (parts : Parts PolicySource.IsText true sources own)
    (rest : List Char) :
    readRow (own ++ ']' :: rest) = .ok (ofGiven ([.enforced, .reportOnly].zip sources), rest) := by
  rw [readRow]
  cases parts with
  | closed blank => simp [nextItem_eq_closed_iff.mpr ⟨_, blank, rfl⟩, ofGiven, empty]
  | @more _ lead own behind enforced sources leads written others =>
      rcases read_append leads written (behind ++ ']' :: rest) with ⟨part, first⟩
      rw [List.append_assoc, List.append_assoc]
      simp only [part, first]
      cases others with
      | closed blank =>
          simp only [nextItem_eq_closed_iff.mpr ⟨behind, blank, rfl⟩]
          rfl
      | @more _ nextLead nextOwn after reportOnly others nextLeads nextWritten nothing =>
          cases nothing with
          | more _ _ _ => simp at short
          | closed blank =>
              rcases read_append nextLeads nextWritten (after ++ ']' :: rest) with
                ⟨nextPart, second⟩
              rw [List.append_assoc, List.append_assoc]
              simp only [nextPart, second]
              exact closeArray_eq_ok_iff.mpr ⟨rfl, after, blank, rfl⟩

/-- A configuration is read exactly behind blanks and a text of what it is given by. -/
theorem read_eq_ok_iff {config : Config} {text rest : List Char} :
    read text = .ok (config, rest) ↔
      ∃ blanks own, Blanks blanks ∧ (∃ given, IsText given own ∧ config = ofGiven given) ∧
        text = blanks ++ (own ++ rest) := by
  constructor
  · intro accepted
    simp only [read] at accepted
    split at accepted
    · cases accepted
    · next mark inner reached =>
        rcases skipBlanks_eq_cons_iff.mp reached with ⟨-, blanks, blank, rfl⟩
        split_ifs at accepted with object array
        · rcases map_eq_ok_iff.mp accepted with ⟨⟨fields, behind⟩, members, same⟩
          cases same
          rcases readMembers_eq_ok_iff.mp members with ⟨given, own, distinct, parts, rfl, rfl⟩
          exact ⟨blanks, _, blank, ⟨given, .object distinct ⟨own, parts, rfl⟩, rfl⟩,
            by simp [object]⟩
        · rcases exists_sources_of_readRow accepted with ⟨sources, own, short, parts, rfl, rfl⟩
          exact ⟨blanks, _, blank, ⟨_, .row short ⟨own, parts, rfl⟩, rfl⟩, by simp [array]⟩
  · rintro ⟨blanks, own, blank, ⟨given, written, rfl⟩, rfl⟩
    cases written with
    | object distinct written =>
        rcases written with ⟨own, parts, rfl⟩
        have members : readMembers readField ⟨none, none⟩ (own ++ '}' :: rest) =
            .ok (Fields.ofGiven given, rest) :=
          readMembers_eq_ok_iff.mpr ⟨given, own, distinct, parts, rfl, rfl⟩
        rw [read, skipBlanks_brackets blank (by decide)]
        simp only [if_true, members]
        rfl
    | row short written =>
        rcases written with ⟨own, parts, rfl⟩
        have notObject : '[' ≠ '{' := by decide
        rw [read, skipBlanks_brackets blank (by decide)]
        simp only [notObject, if_false, if_true]
        exact readRow_append short parts rest

theorem load_eq_ok_iff {text : String} {config : Config} :
    load text = .ok config ↔ ∃ given, IsWholeText IsText given text ∧ config = ofGiven given := by
  have loads : load text = .ok config ↔ ofJson text = .ok config := by
    rw [load]
    cases ofJson text <;> simp
  have reads : ∀ {text rest : List Char},
      (∃ found, read text = .ok (found, rest) ∧ found = config) ↔
        ∃ blanks own, Blanks blanks ∧ (∃ given, IsText given own ∧ config = ofGiven given) ∧
          text = blanks ++ (own ++ rest) := by
    intro text rest
    rw [exists_eq_right, read_eq_ok_iff]
  have whole := exists_readWhole_iff reads text
  rw [exists_eq_right] at whole
  rw [loads, ofJson, whole]
  constructor
  · rintro ⟨before, own, after, blankBefore, ⟨given, written, rfl⟩, blankAfter, same⟩
    exact ⟨given, ⟨before, own, after, blankBefore, written, blankAfter, same⟩, rfl⟩
  · rintro ⟨given, ⟨before, own, after, blankBefore, written, blankAfter, same⟩, rfl⟩
    exact ⟨before, own, after, blankBefore, ⟨given, written, rfl⟩, blankAfter, same⟩

/-- A configuration is loaded exactly from a text of its grammar: an object with known and distinct
fields, or an array of at most two values, each of them null, a string, or an object that the reader
of policies accepts on its own. Each source is the one that is given for its disposition: unset if
it is missing or null, and the very policy that the reader of policies finds otherwise. These texts
are those of the documents of the same shape. -/
theorem load_accepts_grammar (text : String) :
    (∀ config, load text = .ok config ↔
        ∃ given, IsWholeText IsText given text ∧ config = ofGiven given) ∧
      ∀ given, IsWholeText IsText given text ↔
        ∃ document, Document.ofJson (μ := Mismatch) text = .ok document ∧ HeldBy given document :=
  ⟨fun _ => load_eq_ok_iff, fun _ => recognizes.exists_whole_iff.symm⟩

end Config

end ContentPolicy
