import ContentPolicy.Proofs.Json.Recognition

/-!
# Texts of flat documents

A flat document is a flag, a string or an array of strings: what the values of directives are read
from. The reader of documents finds one exactly behind blanks and a text of its own.
-/

namespace ContentPolicy

namespace Json

variable {μ : Type}

/-- The document of a string. -/
def Document.word (text : String) : Document := .scalar (.string text)

theorem Document.text?_eq_some_iff {document : Document} {text : String} :
    document.text? = some text ↔ document = .word text := by
  cases document with
  | scalar scalar => cases scalar <;> simp [text?, word]
  | array items => simp [text?, word]
  | object members => simp [text?, word]

theorem mapM_text?_eq_some_iff {documents : List Document} {words : List String} :
    documents.mapM Document.text? = some words ↔ documents = words.map .word := by
  induction documents generalizing words with
  | nil => cases words <;> simp
  | cons document rest ih =>
      simp only [List.mapM_cons, Option.bind_eq_bind, Option.bind_eq_some_iff, ih,
        Document.text?_eq_some_iff, Option.pure_def, Option.some.injEq]
      cases words with
      | nil => simp
      | cons word others => simp [eq_comm]

def flagText (flag : Bool) : List Char := if flag then "true".toList else "false".toList

theorem readWord_eq_ok_iff {word text rest : List Char} :
    readWord (μ := μ) word text = .ok rest ↔ text = word ++ rest := by
  induction word generalizing text with
  | nil => simp [readWord]
  | cons expected others ih =>
      cases text with
      | nil => simp [readWord]
      | cons found behind =>
          by_cases same : expected = found
          · simp [readWord, same, ih]
          · simp [readWord, same, Ne.symm same]

theorem readScalar_eq_string_iff {mark : Char} {text rest : List Char} {value : String} :
    readScalar (μ := μ) mark text = .ok (.string value, rest) ↔
      ∃ own, Quoted.IsText value own ∧ mark :: text = own ++ rest := by
  constructor
  · intro read
    simp only [readScalar] at read
    split_ifs at read with isNull isTrue isFalse quote minus digit
    · simp [map_eq_ok_iff] at read
    · simp [map_eq_ok_iff] at read
    · simp [map_eq_ok_iff] at read
    · rcases map_eq_ok_iff.mp read with ⟨⟨found, behind⟩, inside, same⟩
      cases same
      rw [quote]
      exact Quoted.read_eq_ok_iff.mp inside
    · simp [map_eq_ok_iff] at read
    · simp [map_eq_ok_iff] at read
  · rintro ⟨own, written, same⟩
    have quote : mark = '"' := by
      rcases written with ⟨inner, -, rfl⟩
      exact (List.cons.inj same).1
    subst quote
    have inside := Quoted.read_eq_ok_iff (μ := μ).mpr ⟨own, written, same⟩
    simp [readScalar, inside, Except.map]

/-- The word of a scalar that is written without a quote or a digit. -/
def Scalar.keyword? : Scalar → Option (List Char)
  | .null => some "null".toList
  | .bool flag => some (flagText flag)
  | .number _ => none
  | .string _ => none

theorem exists_mark_of_keyword {scalar : Scalar} {word : List Char}
    (keyword : scalar.keyword? = some word) :
    ∃ mark inner, word = mark :: inner ∧ isBlank mark = false ∧ mark ≠ ']' := by
  cases scalar with
  | null =>
      cases keyword
      exact ⟨_, _, rfl, by decide, by decide⟩
  | bool flag =>
      cases keyword
      cases flag <;> exact ⟨_, _, rfl, by decide, by decide⟩
  | number number => cases keyword
  | string text => cases keyword

theorem readScalar_eq_keyword_iff {scalar : Scalar} {word : List Char}
    (keyword : scalar.keyword? = some word) {mark : Char} {text rest : List Char} :
    readScalar (μ := μ) mark text = .ok (scalar, rest) ↔ mark :: text = word ++ rest := by
  constructor
  · intro read
    simp only [readScalar] at read
    split_ifs at read with isNull isTrue isFalse quote minus digit
    all_goals
      rcases map_eq_ok_iff.mp read with ⟨behind, inside, same⟩
      cases same
      cases keyword
    · rw [readWord_eq_ok_iff.mp inside, isNull]
      rfl
    · rw [readWord_eq_ok_iff.mp inside, isTrue]
      rfl
    · rw [readWord_eq_ok_iff.mp inside, isFalse]
      rfl
  · intro same
    cases scalar with
    | null =>
        cases keyword
        rcases List.cons.inj same with ⟨rfl, rfl⟩
        rfl
    | bool flag =>
        cases keyword
        cases flag with
        | true =>
            rcases List.cons.inj same with ⟨rfl, rfl⟩
            rfl
        | false =>
            rcases List.cons.inj same with ⟨rfl, rfl⟩
            rfl
    | number number => cases keyword
    | string text => cases keyword

theorem readDocument_eq_scalar_iff {budget : Nat} {text rest : List Char} {scalar : Scalar} :
    readDocument (μ := μ) budget text = .ok (.scalar scalar, rest) ↔
      ∃ mark inner, skipBlanks text = mark :: inner ∧
        readScalar (μ := μ) mark inner = .ok (scalar, rest) := by
  cases budget with
  | zero =>
      rw [readDocument]
      cases skipBlanks text with
      | nil => simp
      | cons mark inner => simp [map_eq_ok_iff, and_assoc, exists_and_left]
  | succ budget =>
      rw [readDocument]
      cases skipBlanks text with
      | nil => simp
      | cons mark inner =>
          -- No scalar begins with a bracket.
          by_cases array : mark = '['
          · subst array
            have refused : readScalar (μ := μ) '[' inner = .error .malformed := rfl
            simp [map_eq_ok_iff, refused]
          · by_cases object : mark = '{'
            · subst object
              have refused : readScalar (μ := μ) '{' inner = .error .malformed := rfl
              simp [map_eq_ok_iff, refused]
            · simp [array, object, map_eq_ok_iff, and_assoc, exists_and_left]

theorem readDocument_eq_word_iff {budget : Nat} {text rest : List Char} {value : String} :
    readDocument (μ := μ) budget text = .ok (.word value, rest) ↔
      ∃ blanks own, Blanks blanks ∧ Quoted.IsText value own ∧ text = blanks ++ (own ++ rest) := by
  rw [Document.word, readDocument_eq_scalar_iff]
  constructor
  · rintro ⟨mark, inner, reached, read⟩
    rcases skipBlanks_eq_cons_iff.mp reached with ⟨-, blanks, blank, rfl⟩
    rcases readScalar_eq_string_iff.mp read with ⟨own, written, same⟩
    exact ⟨blanks, own, blank, written, by rw [same]⟩
  · rintro ⟨blanks, own, blank, written, rfl⟩
    rcases written.exists_cons with ⟨inner, rfl⟩
    exact ⟨'"', inner ++ rest, (skipBlanks_eq_mark_iff (by decide)).mpr ⟨blanks, blank, rfl⟩,
      readScalar_eq_string_iff.mpr ⟨_, written, rfl⟩⟩

theorem readDocument_eq_keyword_iff {scalar : Scalar} {word : List Char}
    (keyword : scalar.keyword? = some word) {budget : Nat} {text rest : List Char} :
    readDocument (μ := μ) budget text = .ok (.scalar scalar, rest) ↔
      ∃ blanks, Blanks blanks ∧ text = blanks ++ (word ++ rest) := by
  rw [readDocument_eq_scalar_iff]
  constructor
  · rintro ⟨mark, inner, reached, read⟩
    rcases skipBlanks_eq_cons_iff.mp reached with ⟨-, blanks, blank, rfl⟩
    exact ⟨blanks, blank, by rw [(readScalar_eq_keyword_iff keyword).mp read]⟩
  · rintro ⟨blanks, blank, rfl⟩
    rcases exists_mark_of_keyword keyword with ⟨mark, inner, rfl, notBlank, -⟩
    refine ⟨mark, inner ++ rest, (skipBlanks_eq_mark_iff notBlank).mpr ⟨blanks, blank, rfl⟩, ?_⟩
    exact (readScalar_eq_keyword_iff keyword).mpr rfl

theorem recognizes_word {budget : Nat} :
    Recognizes (readDocument (μ := μ) budget) (fun word document => document = .word word)
      Quoted.IsText where
  exists_document_iff := by
    intro word text rest
    simp only [exists_eq_right, readDocument_eq_word_iff]
  exists_mark := by
    intro word own written
    rcases written.exists_cons with ⟨inner, rfl⟩
    exact ⟨'"', inner, rfl, by decide, by decide⟩

theorem heldByArray_word_iff {words : List String} {document : Document} :
    HeldByArray (fun word item => item = .word word) words document ↔
      document = .array (words.map .word) := by
  have same : ∀ {documents : List Document},
      List.Forall₂ (fun word item => item = .word word) words documents ↔
        documents = words.map .word := by
    intro documents
    rw [← List.forall₂_eq_eq_eq, List.forall₂_map_right_iff]
    exact ⟨List.Forall₂.flip, List.Forall₂.flip⟩
  simp only [HeldByArray, same, exists_eq_right]

end Json

end ContentPolicy
