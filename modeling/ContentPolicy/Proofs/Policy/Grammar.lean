import ContentPolicy.OrderedMap.Lemmas
import ContentPolicy.Proofs.Json.Document

/-!
# The grammar of policies

The texts that write a policy, character by character: an object whose members are flags, strings
and arrays of strings, with blanks between the tokens. The main statement says that exactly these
texts are read, that they are the documents of objects whose members hold values, and that a name
that is written again keeps its first place and takes its last value.
-/

namespace ContentPolicy

open Directive Json

namespace Directive.Value

/-- The texts of a value: a flag, a string between quotes, or strings between brackets. -/
inductive IsText : Value → List Char → Prop where
  | flag (flag : Bool) : IsText (.bool flag) (flagText flag)
  | string {text : String} {own : List Char} (written : Quoted.IsText text own) :
      IsText (.string text) own
  | list {tokens : List String} {own : List Char} (parts : Parts Quoted.IsText true tokens own) :
      IsText (.list tokens) ('[' :: (own ++ [']']))

/-- The documents that hold a value. A collection is always read as a list. -/
inductive HeldBy : Value → Document → Prop where
  | flag (flag : Bool) : HeldBy (.bool flag) (.scalar (.bool flag))
  | string (text : String) : HeldBy (.string text) (.scalar (.string text))
  | list (tokens : List String) : HeldBy (.list tokens) (.array (tokens.map .word))

theorem ofDocument?_eq_some_iff {document : Document} {value : Value} :
    ofDocument? document = some value ↔ value.HeldBy document := by
  constructor
  · intro held
    simp only [ofDocument?] at held
    split at held
    · cases held
      exact .flag _
    · cases held
      exact .string _
    · rcases Option.map_eq_some_iff.mp held with ⟨tokens, read, rfl⟩
      rw [mapM_text?_eq_some_iff.mp read]
      exact .list tokens
    · cases held
  · intro held
    cases held with
    | flag flag => rfl
    | string text => rfl
    | list tokens => simp only [ofDocument?, mapM_text?_eq_some_iff.mpr rfl, Option.map_some]

variable {μ : Type}

theorem recognizes {budget : Nat} (nests : 0 < budget) :
    Recognizes (readDocument (μ := μ) budget) HeldBy IsText where
  exists_document_iff := by
    intro value text rest
    cases budget with
    | zero => cases nests
    | succ budget =>
    constructor
    · rintro ⟨document, read, held⟩
      cases held with
      | flag flag =>
          rcases (readDocument_eq_keyword_iff rfl).mp read with ⟨blanks, blank, rfl⟩
          exact ⟨blanks, _, blank, .flag flag, rfl⟩
      | string value =>
          rcases readDocument_eq_word_iff.mp read with ⟨blanks, own, blank, written, rfl⟩
          exact ⟨blanks, own, blank, .string written, rfl⟩
      | list tokens =>
          have words := heldByArray_word_iff.mpr (Eq.refl (Document.array (tokens.map .word)))
          rcases recognizes_word.array.exists_document_iff.mp ⟨_, read, words⟩ with
            ⟨blanks, _, blank, ⟨own, parts, rfl⟩, rfl⟩
          exact ⟨blanks, _, blank, .list parts, rfl⟩
    · rintro ⟨blanks, own, blank, written, rfl⟩
      cases written with
      | flag flag =>
          exact ⟨_, (readDocument_eq_keyword_iff rfl).mpr ⟨blanks, blank, rfl⟩, .flag flag⟩
      | string written =>
          exact ⟨_, readDocument_eq_word_iff.mpr ⟨blanks, own, blank, written, rfl⟩, .string _⟩
      | list parts =>
          rcases recognizes_word.array.exists_document_iff.mpr
            ⟨blanks, _, blank, ⟨_, parts, rfl⟩, rfl⟩ with ⟨document, read, words⟩
          rw [heldByArray_word_iff.mp words] at read
          exact ⟨_, read, .list _⟩
  exists_mark := by
    rintro value own written
    cases written with
    | flag flag =>
        have keyword : (Scalar.bool flag).keyword? = some (flagText flag) := rfl
        exact exists_mark_of_keyword keyword
    | string written =>
        rcases written.exists_cons with ⟨inner, rfl⟩
        exact ⟨'"', inner, rfl, by decide, by decide⟩
    | list parts => exact ⟨'[', _, rfl, by decide, by decide⟩

theorem read_eq_ok_iff {budget : Nat} (nests : 0 < budget) {text rest : List Char} {value : Value} :
    read budget text = .ok (value, rest) ↔
      ∃ blanks own, Blanks blanks ∧ value.IsText own ∧ text = blanks ++ (own ++ rest) := by
  rw [← (recognizes (μ := Mismatch) nests).exists_document_iff, read]
  cases readDocument (μ := Mismatch) budget text with
  | error failure => simp
  | ok found =>
      rcases found with ⟨document, behind⟩
      simp only [ofDocument, map_eq_ok_iff]
      cases held : ofDocument? document with
      | none => simp [← ofDocument?_eq_some_iff, held]
      | some other => simp [← ofDocument?_eq_some_iff, held, and_comm]

theorem ofJson_eq_ok_iff {text : String} {value : Value} :
    ofJson text = .ok value ↔ IsWholeText IsText value text := by
  have reads : ∀ {text rest : List Char},
      (∃ found, read nestingLimit text = .ok (found, rest) ∧ found = value) ↔
        ∃ blanks own, Blanks blanks ∧ value.IsText own ∧ text = blanks ++ (own ++ rest) := by
    intro text rest
    rw [exists_eq_right, read_eq_ok_iff (by decide)]
  rw [ofJson, IsWholeText, IsPaddedText, ← exists_readWhole_iff reads, exists_eq_right]

end Directive.Value

namespace Policy

/-- The texts that write some entries in order, as the members of an object. -/
def IsText : List (String × Value) → List Char → Prop := IsPaddedText (IsObjectText Value.IsText)

/-- Whether the members of an object hold some entries, each under its own name. -/
def HeldBy : List (String × Value) → List (String × Document) → Prop := HeldByMembers Value.HeldBy

theorem entriesOf?_eq_some_iff {members : List (String × Document)}
    {entries : List (String × Value)} :
    entriesOf? members = some entries ↔ HeldBy entries members := by
  induction members generalizing entries with
  | nil => simp [entriesOf?, HeldBy, HeldByMembers, eq_comm]
  | cons member rest ih =>
      rcases member with ⟨name, document⟩
      rw [entriesOf?_cons_eq_some_iff, HeldBy, HeldByMembers, List.forall₂_cons_right_iff]
      simp only [ih, Value.ofDocument?_eq_some_iff, HeldBy, HeldByMembers]
      constructor
      · rintro ⟨value, others, held, othersHeld, rfl⟩
        exact ⟨(name, value), others, ⟨rfl, held⟩, othersHeld, rfl⟩
      · rintro ⟨⟨_, value⟩, others, ⟨rfl, held⟩, othersHeld, rfl⟩
        exact ⟨value, others, held, othersHeld, rfl⟩

theorem exists_heldBy_iff_forall {members : List (String × Document)} :
    (∃ entries, HeldBy entries members) ↔
      ∀ member ∈ members, ∃ value : Value, value.HeldBy member.2 := by
  induction members with
  | nil => simp [HeldBy, HeldByMembers]
  | cons member rest ih =>
      rw [List.forall_mem_cons, ← ih]
      constructor
      · rintro ⟨_, held⟩
        cases held with
        | cons first others => exact ⟨⟨_, first.2⟩, _, others⟩
      · rintro ⟨⟨value, first⟩, entries, others⟩
        exact ⟨(member.1, value) :: entries, .cons ⟨rfl, first⟩ others⟩

/-- The texts that write some entries are those of objects whose members hold them. -/
theorem isText_iff_exists_heldBy {entries : List (String × Value)} {text : String} :
    IsText entries text.toList ↔
      ∃ members, Document.ofJson (μ := Mismatch) text = .ok (.object members) ∧
        HeldBy entries members := by
  have recognizes : Recognizes (readDocument (μ := Mismatch) nestingLimit)
      (HeldByObject Value.HeldBy) (IsObjectText Value.IsText) :=
    (Value.recognizes (by decide)).object
  have whole : IsText entries text.toList ↔
      ∃ document, Document.ofJson (μ := Mismatch) text = .ok document ∧
        HeldByObject Value.HeldBy entries document :=
    recognizes.exists_whole_iff.symm
  rw [whole]
  constructor
  · rintro ⟨_, read, members, rfl, held⟩
    exact ⟨members, read, held⟩
  · rintro ⟨members, read, held⟩
    exact ⟨_, read, members, rfl, held⟩

theorem ofJson_eq_ok_iff_isText {text : String} {policy : Policy} :
    ofJson text = .ok policy ↔
      ∃ entries, IsText entries text.toList ∧ policy = OrderedMap.ofList entries := by
  simp only [ofJson_eq_ok_iff, entriesOf?_eq_some_iff, isText_iff_exists_heldBy]
  grind

/-- A text is read exactly if it writes an object all of whose members hold values: flags, strings
or lists. It then writes some entries, and the policy is what these leave behind when they are
written one after another: each name at its first place, with its last value. -/
theorem reads_grammar (text : String) :
    ((∃ policy, ofJson text = .ok policy) ↔
        ∃ members, Document.ofJson (μ := Mismatch) text = .ok (.object members) ∧
          ∀ member ∈ members, ∃ value : Value, value.HeldBy member.2) ∧
      (∀ policy, ofJson text = .ok policy ↔
        ∃ entries, IsText entries text.toList ∧ policy = OrderedMap.ofList entries) ∧
      (∀ entries, IsText entries text.toList ↔
        ∃ members, Document.ofJson (μ := Mismatch) text = .ok (.object members) ∧
          HeldBy entries members) ∧
      ∀ entries : List (String × Value),
        (OrderedMap.ofList entries).keys = (entries.map Prod.fst).eraseDups ∧
          ∀ name, (OrderedMap.ofList entries).get? name = entries.reverse.lookup name := by
  refine ⟨?_, fun _ => ofJson_eq_ok_iff_isText, fun _ => isText_iff_exists_heldBy,
    fun entries => ⟨OrderedMap.keys_ofList entries, OrderedMap.get?_ofList entries⟩⟩
  simp only [ofJson_eq_ok_iff_isText, isText_iff_exists_heldBy, ← exists_heldBy_iff_forall]
  constructor
  · rintro ⟨_, entries, ⟨members, written, held⟩, -⟩
    exact ⟨members, written, entries, held⟩
  · rintro ⟨members, written, entries, held⟩
    exact ⟨_, entries, ⟨members, written, held⟩, rfl⟩

end Policy

end ContentPolicy
