import ContentPolicy.Proofs.Config.Grammar
import ContentPolicy.Proofs.Json.Locality
import ContentPolicy.Proofs.Json.Refusal
import ContentPolicy.Proofs.Policy.Misshapen

/-!
# The earliest wrong shape

Policies and configurations are judged while they are read, so the first wrong shape is reported
whatever is behind it. A policy judges each of its values, and a configuration each of its fields.
The policy in a field is therefore judged later than a policy on its own: only at the end of the
field, if the text has got so far.
-/

namespace ContentPolicy

open Directive Json

namespace PolicySource

/-- The documents that hold no source. -/
inductive Misshapen : Document → Prop where
  | flag (flag : Bool) : Misshapen (.scalar (.bool flag))
  | number (number : Number) : Misshapen (.scalar (.number number))
  | array (items : List Document) : Misshapen (.array items)
  | object {members : List (String × Document)} {member : String × Document}
      (present : member ∈ members) (wrong : Value.Misshapen member.2) : Misshapen (.object members)

theorem ofDocument?_eq_none_iff {document : Document} :
    ofDocument? document = none ↔ Misshapen document := by
  have ofMembers?_eq_none_iff : ∀ members : List (String × Document),
      Policy.ofMembers? members = none ↔ ∃ member ∈ members, Value.Misshapen member.2 := by
    intro members
    simp only [Policy.ofMembers?, Policy.entriesOf?, Option.map_eq_none_iff, mapM_eq_none_iff,
      Value.ofDocument?_eq_none_iff]
  constructor
  · intro held
    cases document with
    | scalar scalar =>
        cases scalar with
        | null => cases held
        | bool flag => exact .flag flag
        | number number => exact .number number
        | string text => cases held
    | array items => exact .array items
    | object members =>
        rcases (ofMembers?_eq_none_iff members).mp (Option.map_eq_none_iff.mp held) with
          ⟨member, present, wrong⟩
        exact .object present wrong
  · intro wrong
    cases wrong with
    | flag flag => rfl
    | number number => rfl
    | array items => rfl
    | object present wrong =>
        exact Option.map_eq_none_iff.mpr ((ofMembers?_eq_none_iff _).mpr ⟨_, present, wrong⟩)

theorem read_eq_mismatch {document : Document} {text rest : List Char}
    (found : readDocument (μ := Mismatch) (nestingLimit - 1) text = .ok (document, rest))
    (wrong : Misshapen document) : read text = .error (.mismatch .configuredPolicy) := by
  simp only [read, found, ofDocument?_eq_none_iff.mpr wrong]

theorem read_eq_error {text : List Char} {failure : Failure Mismatch}
    (failed : readDocument (nestingLimit - 1) text = .error failure) :
    read text = .error failure := by
  simp only [read, failed]

theorem read_skipBlanks (text : List Char) : read (skipBlanks text) = read text := by
  simp only [read, readDocument_skipBlanks]

/-- Where an array is not closed instead of holding a source, what refuses the source ends it. -/
theorem nextItem_of_read_eq_error {first : Bool} {lead value : List Char}
    {failure : Failure Mismatch} (leads : Lead first lead) (failed : read value = .error failure)
    (continues : first = true → ∀ rest, skipBlanks value ≠ ']' :: rest) :
    nextItem (μ := Mismatch) first (lead ++ value) = .error failure ∨
      ∃ inner, nextItem (μ := Mismatch) first (lead ++ value) = .ok (.part inner) ∧
        read inner = .error failure := by
  rw [← read_skipBlanks] at failed
  have reached := nextItem_behind_lead (μ := Mismatch) leads value
  cases behind : skipBlanks value with
  | nil =>
      left
      rw [behind] at failed
      cases failed
      simpa only [behind] using reached
  | cons mark inner =>
      rw [behind] at failed
      simp only [behind] at reached
      split_ifs at reached with closes isFirst
      · rw [closes] at behind
        exact absurd behind (continues isFirst inner)
      · left
        rw [closes] at failed
        cases failed
        exact reached
      · exact .inr ⟨_, reached, failed⟩

end PolicySource

namespace Config

/-- Whether the value of a field, well-formed or not, begins between two texts. In an array this
excludes the bracket that closes it without any value. -/
inductive AwaitsValue : List Char → List Char → Prop where
  | field {given : Given} {field : Disposition} {front between : List Char} (value : List Char)
      (distinct : (given.map Prod.fst).Nodup) (missing : field ∉ given.map Prod.fst)
      (named : EndsInName PolicySource.IsText given.named field.field front)
      (blank : Blanks between) : AwaitsValue (front ++ (between ++ [':'])) value
  | item {sources : List (Option PolicySource)} {blanks front value : List Char}
      (blank : Blanks blanks) (few : sources.length ≤ 1)
      (begun : Begun PolicySource.IsText true sources front)
      (continues : sources = [] → ∀ rest, skipBlanks value ≠ ']' :: rest) :
      AwaitsValue (blanks ++ '[' :: front) value

/-- Whether some members are what is still to be read of all that is given. -/
def Fields.Before (given : Given) (members : List (String × Option PolicySource))
    (fields : Fields) : Prop :=
  ∃ before after : Given, given = before ++ after ∧ members = after.named ∧
    fields = Fields.ofGiven before

theorem Fields.Before.eq_ofGiven {given : Given} {fields : Fields}
    (nothing : Fields.Before given [] fields) : fields = Fields.ofGiven given := by
  rcases nothing with ⟨before, after, rfl, isNamed, rfl⟩
  have none : after = [] := List.map_eq_nil_iff.mp isNamed.symm
  rw [none, List.append_nil]

theorem Fields.Before.exists_next {given : Given} {fields : Fields} {document : Document}
    {member : String × Option PolicySource} {members : List (String × Option PolicySource)}
    {text rest : List Char} (distinct : (given.map Prod.fst).Nodup)
    (reached : Fields.Before given (member :: members) fields)
    (found : Json.readField text = .ok (document, rest))
    (held : PolicySource.HeldBy member.2 document) :
    ∃ next, readField fields member.1 text = .ok (next, rest) ∧
      Fields.Before given members next := by
  rcases reached with ⟨before, after, same, isNamed, rfl⟩
  cases after with
  | nil => cases isNamed
  | cons field after =>
      rcases field with ⟨field, source⟩
      cases isNamed
      have missing : field ∉ before.map Prod.fst := by
        rw [same, List.map_append] at distinct
        intro again
        exact (List.nodup_append.mp distinct).2.2 _ again _ (by simp) rfl
      have taken : (Fields.ofGiven before).take? (field.field, document) =
          some (Fields.ofGiven (before ++ [(field, source)])) :=
        take?_ofGiven_eq_some_iff.mpr ⟨field, source, missing, rfl, held, rfl⟩
      refine ⟨_, readField_eq_ok_iff.mpr ⟨document, found, taken⟩, _, after, ?_, rfl, rfl⟩
      rw [same, List.append_assoc, List.singleton_append]

/-- What refuses a further field refuses the configuration. -/
theorem ofJson_eq_error_of_readField {given : Given} {name : String} {front behind : List Char}
    {failure : Failure Mismatch} (distinct : (given.map Prod.fst).Nodup)
    (named : EndsInName PolicySource.IsText given.named name front)
    (fails : readField (Fields.ofGiven given) name behind = .error failure) :
    ofJson (String.ofList (front ++ behind)) = .error failure := by
  have members : ∃ inner, skipBlanks (front ++ behind) = '\x7b' :: inner ∧
      readMembers readField ⟨none, none⟩ inner = .error failure := by
    apply named.readMembers_eq_error PolicySource.recognizes_value (Fields.Before given)
    · intro member members fields document text rest reached found held
      exact reached.exists_next distinct found held
    · intro fields nothing
      rw [nothing.eq_ofGiven]
      exact fails
    · exact ⟨[], given, rfl, rfl, rfl⟩
  rcases members with ⟨inner, opened, refused⟩
  simp only [ofJson, readWhole, String.toList_ofList, read, opened, if_true, refused]
  rfl

/-- What refuses the value of a field refuses the configuration. -/
theorem ofJson_eq_error {front value : List Char} {failure : Failure Mismatch}
    (awaits : AwaitsValue front value) (fails : PolicySource.read value = .error failure) :
    ofJson (String.ofList (front ++ value)) = .error failure := by
  cases awaits with
  | @field given field front between _ distinct missing named blank =>
      have colon : readColon (μ := Mismatch) (between ++ ':' :: value) = .ok value :=
        readColon_eq_ok_iff.mpr ⟨between, blank, rfl⟩
      have refused : readField (Fields.ofGiven given) field.field (between ++ ':' :: value) =
          .error failure := by
        simp only [readField, ofField?_eq_some_iff.mpr rfl, has_ofGiven_iff.mpr missing, colon, fails]
        rfl
      have whole := ofJson_eq_error_of_readField distinct named refused
      simpa using whole
  | @item sources blanks front _ blank few begun continues =>
      have row : readRow (front ++ value) = .error failure := by
        cases begun with
        | here leads =>
            rcases PolicySource.nextItem_of_read_eq_error leads fails fun _ => continues rfl with
              failed | ⟨inner, part, refused⟩
            · simp only [readRow, failed]
            · simp only [readRow, part, refused]
        | @more _ lead own behind source others leads written later =>
            rcases read_append leads written (behind ++ value) with ⟨part, first⟩
            rw [List.append_assoc, List.append_assoc]
            simp only [readRow, part, first]
            cases later with
            | more _ _ _ => simp at few
            | here nextLeads =>
                rcases PolicySource.nextItem_of_read_eq_error nextLeads fails
                  (fun isFirst => absurd isFirst Bool.false_ne_true) with
                  failed | ⟨inner, part, refused⟩
                · simp only [failed]
                · simp only [part, refused]
      have opened : skipBlanks (blanks ++ '[' :: (front ++ value)) = '[' :: (front ++ value) :=
        (skipBlanks_eq_mark_iff (by decide)).mpr ⟨blanks, blank, rfl⟩
      have same : blanks ++ '[' :: front ++ value = blanks ++ '[' :: (front ++ value) := by simp
      have notObject : '[' ≠ '\x7b' := by decide
      simp only [ofJson, readWhole, String.toList_ofList, same, read, opened, notObject, if_false,
        if_true, row]

theorem load_of_ofJson_eq_error {text : String} {failure : Failure Mismatch}
    (failed : ofJson text = .error failure) : load text = .error (.config failure) := by
  simp only [load, failed]

theorem AwaitsValue.append {front value : List Char} {document : Document}
    (awaits : AwaitsValue front value) (complete : IsComplete (nestingLimit - 1) document value)
    (behind : List Char) : AwaitsValue front (value ++ behind) := by
  cases awaits with
  | field _ distinct missing named blank => exact .field _ distinct missing named blank
  | item blank few begun _ =>
      rcases complete.exists_rest behind with ⟨rest, read⟩
      exact .item blank few begun fun _ => skipBlanks_ne_closing read

end Config

/-- A value of a wrong shape that has been read to its end decides what becomes of a policy or a
configuration, whatever follows it. So does the name of a field of a configuration that is unknown
or given already. Before its end a value can only fail as a text: what is inside of it has not been
judged, and the failure is the one of the document. -/
theorem earliest_wrong_shape_wins :
    (∀ front, Policy.AwaitsValue front → ∀ value,
      (∀ document, IsComplete (nestingLimit - 1) document value → Value.Misshapen document →
        ∀ behind, Policy.ofJson (String.ofList (front ++ (value ++ behind))) =
          .error (.mismatch .directiveValue)) ∧
      ∀ failure, readDocument (nestingLimit - 1) value = .error failure →
        (failure = .truncated ∨ failure = .malformed) ∧
          Policy.ofJson (String.ofList (front ++ value)) = .error failure) ∧
    (∀ front value, Config.AwaitsValue front value →
      (∀ document, IsComplete (nestingLimit - 1) document value → PolicySource.Misshapen document →
        ∀ behind, Config.load (String.ofList (front ++ (value ++ behind))) =
          .error (.config (.mismatch .configuredPolicy))) ∧
      ∀ failure, readDocument (nestingLimit - 1) value = .error failure →
        (failure = .truncated ∨ failure = .malformed) ∧
          Config.load (String.ofList (front ++ value)) = .error (.config failure)) ∧
    ∀ (given : Config.Given) name front, (given.map Prod.fst).Nodup →
      EndsInName PolicySource.IsText given.named name front →
        ((∀ field : Disposition, field.field ≠ name) →
          ∀ behind, Config.load (String.ofList (front ++ behind)) =
            .error (.config (.mismatch (.unknownField name)))) ∧
        ∀ field ∈ given.map Prod.fst, field.field = name →
          ∀ behind, Config.load (String.ofList (front ++ behind)) =
            .error (.config (.mismatch (.repeatedField field))) := by
  refine ⟨?_, ?_, ?_⟩
  · intro front awaits value
    constructor
    · intro document complete wrong behind
      rcases complete.exists_rest behind with ⟨rest, read⟩
      exact Policy.ofJson_eq_error awaits (Value.read_eq_mismatch read wrong)
    · intro failure failed
      refine ⟨failsByText_readDocument _ value failure failed, ?_⟩
      exact Policy.ofJson_eq_error awaits (Value.read_eq_error failed)
  · intro front value awaits
    constructor
    · intro document complete wrong behind
      rcases complete.exists_rest behind with ⟨rest, read⟩
      apply Config.load_of_ofJson_eq_error
      exact Config.ofJson_eq_error (awaits.append complete behind)
        (PolicySource.read_eq_mismatch read wrong)
    · intro failure failed
      refine ⟨failsByText_readDocument _ value failure failed, ?_⟩
      apply Config.load_of_ofJson_eq_error
      exact Config.ofJson_eq_error awaits (PolicySource.read_eq_error failed)
  · intro given name front distinct named
    constructor
    · intro unknown behind
      have none : Disposition.ofField? name = none := by
        apply Option.eq_none_iff_forall_ne_some.mpr
        intro field found
        exact unknown field (Config.ofField?_eq_some_iff.mp found)
      apply Config.load_of_ofJson_eq_error
      apply Config.ofJson_eq_error_of_readField distinct named
      simp only [Config.readField, none]
    · intro field present same behind
      have again : (Config.Fields.ofGiven given).has field = true := by
        apply Bool.of_not_eq_false
        intro missing
        exact Config.has_ofGiven_iff.mp missing present
      apply Config.load_of_ofJson_eq_error
      apply Config.ofJson_eq_error_of_readField distinct named
      simp only [Config.readField, Config.ofField?_eq_some_iff.mpr same, again, if_true]

/-- An object in place of a value ends a policy, and so does an array in place of a field. -/
theorem wrong_shape_wins_behind_flag :
    (∀ behind, Policy.ofJson (String.ofList
        ("\x7b\"a\":true,\"b\":".toList ++ ("\x7b\x7d".toList ++ behind))) =
      .error (.mismatch .directiveValue)) ∧
    ∀ behind, Config.load (String.ofList ("\x7b\"enforced\":".toList ++ ("[]".toList ++ behind))) =
      .error (.config (.mismatch .configuredPolicy)) := by
  have awaitsEntry : Policy.AwaitsValue "\x7b\"a\":true,\"b\":".toList := by
    refine ⟨[("a", .bool true)], "b", _, [], ⟨[], _, _, blanks_nil,
      .more (.first blanks_nil) ⟨_, [], [], _, Quoted.isText_write "a", blanks_nil, blanks_nil,
        .flag true, rfl⟩ (.here (.next blanks_nil blanks_nil)),
      Quoted.isText_write "b", rfl⟩, blanks_nil, ?_⟩
    decide
  have awaitsField : Config.AwaitsValue "\x7b\"enforced\":".toList "[]".toList := by
    have nothing : (([] : Config.Given).map Prod.fst).Nodup := List.nodup_nil
    have named : EndsInName PolicySource.IsText (Config.Given.named []) Disposition.enforced.field
        "\x7b\"enforced\"".toList :=
      ⟨[], [], _, blanks_nil, .here (.first blanks_nil), Quoted.isText_write "enforced", by decide⟩
    exact .field _ nothing List.not_mem_nil named blanks_nil
  constructor
  · exact (earliest_wrong_shape_wins.1 _ awaitsEntry _).1 _ (.closed rfl id) (.object [])
  · exact (earliest_wrong_shape_wins.2.1 _ _ awaitsField).1 _ (.closed rfl id) (.array [])

-- The same text is refused for its shape on its own, and for its end as the value of a field.
example :
    (Policy.ofJson "\x7b\"sandbox\": 1," matches .error (.mismatch .directiveValue)) ∧
      (Config.load "\x7b\"enforced\": \x7b\"sandbox\": 1," matches .error (.config .truncated)) := by
  decide +kernel

end ContentPolicy
