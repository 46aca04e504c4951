import ContentPolicy.Proofs.Json.Begun
import ContentPolicy.Proofs.Policy.Grammar

/-!
# Documents that hold no value

A document that is no value of a directive ends the reading of a policy as soon as it has been read.
-/

namespace ContentPolicy

open Directive Json

namespace Json

theorem mapM_eq_none_iff {α β : Type} {f : α → Option β} {items : List α} :
    items.mapM f = none ↔ ∃ item ∈ items, f item = none := by
  induction items with
  | nil => simp
  | cons item rest ih =>
      cases found : f item with
      | none => simp [found]
      | some value =>
          cases others : rest.mapM f with
          | none => simpa [found, others] using ih.mp others
          | some values => simpa [found, others] using ih

end Json

namespace Directive.Value

/-- The documents that hold no value. -/
inductive Misshapen : Document → Prop where
  | null : Misshapen (.scalar .null)
  | number (number : Number) : Misshapen (.scalar (.number number))
  | array {items : List Document} {item : Document} (member : item ∈ items)
      (noString : ∀ text, item ≠ .word text) : Misshapen (.array items)
  | object (members : List (String × Document)) : Misshapen (.object members)

theorem ofDocument?_eq_none_iff {document : Document} :
    ofDocument? document = none ↔ Misshapen document := by
  have noString_iff : ∀ item : Document, item.text? = none ↔ ∀ text, item ≠ .word text := by
    intro item
    simp [← Document.text?_eq_some_iff, Option.eq_none_iff_forall_ne_some]
  constructor
  · intro held
    simp only [ofDocument?] at held
    split at held
    · cases held
    · cases held
    · rcases mapM_eq_none_iff.mp (Option.map_eq_none_iff.mp held) with ⟨item, member, none⟩
      exact .array member ((noString_iff item).mp none)
    · next notFlag notString notArray =>
        cases document with
        | scalar scalar =>
            cases scalar with
            | null => exact .null
            | bool flag => exact absurd rfl (notFlag flag)
            | number number => exact .number number
            | string text => exact absurd rfl (notString text)
        | array items => exact absurd rfl (notArray items)
        | object members => exact .object members
  · intro wrong
    cases wrong with
    | null => rfl
    | number number => rfl
    | array member noString =>
        have none := mapM_eq_none_iff.mpr ⟨_, member, (noString_iff _).mpr noString⟩
        simp [ofDocument?, none]
    | object members => rfl

theorem read_eq_mismatch {budget : Nat} {document : Document} {text rest : List Char}
    (read : readDocument (μ := Mismatch) budget text = .ok (document, rest))
    (wrong : Misshapen document) :
    Value.read budget text = .error (.mismatch .directiveValue) := by
  simp [Value.read, read, ofDocument, ofDocument?_eq_none_iff.mpr wrong, Except.map]

theorem read_eq_error {budget : Nat} {text : List Char} {failure : Failure Mismatch}
    (failed : readDocument budget text = .error failure) :
    Value.read budget text = .error failure := by
  simp only [Value.read, failed]

end Directive.Value

namespace Policy

/-- The texts of a policy up to the colon before the value of an entry. The entries before it have
been written in full. -/
def AwaitsValue (front : List Char) : Prop :=
  ∃ entries name own between, EndsInName Value.IsText entries name own ∧ Blanks between ∧
    front = own ++ (between ++ [':'])

/-- What refuses the value of an entry refuses the policy. -/
theorem ofJson_eq_error {front value : List Char} {failure : Failure Mismatch}
    (awaits : AwaitsValue front)
    (fails : Value.read (nestingLimit - 1) value = .error failure) :
    ofJson (String.ofList (front ++ value)) = .error failure := by
  rcases awaits with ⟨entries, name, own, between, named, blank, rfl⟩
  have colon : readColon (μ := Mismatch) (between ++ ':' :: value) = .ok value :=
    readColon_eq_ok_iff.mpr ⟨between, blank, rfl⟩
  have refuses : ∀ policy, readMember policy name (between ++ ':' :: value) = .error failure := by
    intro policy
    simp only [readMember, colon, fails]
    rfl
  -- A policy takes up whatever comes next, be its name new or not.
  have members : ∃ inner, skipBlanks (own ++ (between ++ ':' :: value)) = '\x7b' :: inner ∧
      readMembers readMember OrderedMap.empty inner = .error failure := by
    apply named.readMembers_eq_error (Value.recognizes (by decide)) fun _ _ => True
    · intro member _ policy document text rest _ found held
      exact ⟨_, readMember_eq_ok_iff.mpr
        ⟨document, _, found, Value.ofDocument?_eq_some_iff.mpr held, rfl⟩, trivial⟩
    · exact fun policy _ => refuses policy
    · trivial
  rcases members with ⟨inner, opened, refused⟩
  have same : own ++ (between ++ [':']) ++ value = own ++ (between ++ ':' :: value) := by simp
  simp only [ofJson, readWhole, String.toList_ofList, same, read, opened, if_true, refused]

end Policy

end ContentPolicy
