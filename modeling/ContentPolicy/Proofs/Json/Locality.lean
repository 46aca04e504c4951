import ContentPolicy.Proofs.Json.Document
import ContentPolicy.Proofs.Json.Numeral
import Mathlib.Data.List.DropRight

/-!
# Text behind a document

The reader of documents never looks further than it reads: a document in front of a text stays the
same whatever is appended to the text. Only a number at the very end of the text can be continued by
what is appended.
-/

namespace ContentPolicy

namespace Json

variable {α β μ σ : Type}

/-- Whether a reader that leaves something behind a value finds that value whatever else follows. -/
def Local (read : Reader μ α) : Prop :=
  ∀ {text rest : List Char} {value : α}, read text = .ok (value, rest) → rest ≠ [] →
    ∀ behind, read (text ++ behind) = .ok (value, rest ++ behind)

variable {fuel more budget : Nat} {first : Bool} {text inner rest : List Char}

/-- What a value is made of can be read before more text if the value itself can. -/
theorem map_append {result longer : Except (Failure μ) (α × List Char)} {f : α → β} {value : β}
    {behind : List Char}
    (read : (result.map fun (found, rest) => (f found, rest)) = .ok (value, rest))
    (kept : ∀ found, result = .ok (found, rest) → f found = value →
      longer = .ok (found, rest ++ behind)) :
    (longer.map fun (found, rest) => (f found, rest)) = .ok (value, rest ++ behind) := by
  rcases map_eq_ok_iff.mp read with ⟨⟨found, after⟩, taken, same⟩
  rcases Prod.mk.inj same with ⟨isValue, rfl⟩
  rw [kept found taken isValue, ← isValue]
  rfl

theorem skipBlanks_append_behind {mark : Char} (reached : skipBlanks text = mark :: rest)
    (behind : List Char) : skipBlanks (text ++ behind) = mark :: (rest ++ behind) := by
  rcases skipBlanks_eq_cons_iff.mp reached with ⟨notBlank, blanks, blank, rfl⟩
  exact skipBlanks_eq_cons_iff.mpr ⟨notBlank, blanks, blank, by simp⟩

theorem readColon_append_behind (read : readColon (μ := μ) text = .ok rest) (behind : List Char) :
    readColon (μ := μ) (text ++ behind) = .ok (rest ++ behind) := by
  rcases readColon_eq_ok_iff.mp read with ⟨blanks, blank, rfl⟩
  exact readColon_eq_ok_iff.mpr ⟨blanks, blank, by simp⟩

theorem Quoted.read_append_behind {name : String}
    (read : Quoted.read (μ := μ) text = .ok (name, rest)) (behind : List Char) :
    Quoted.read (μ := μ) (text ++ behind) = .ok (name, rest ++ behind) := by
  rcases Quoted.read_eq_ok_iff.mp read with ⟨own, written, same⟩
  refine Quoted.read_eq_ok_iff.mpr ⟨own, written, ?_⟩
  rw [← List.cons_append, same, List.append_assoc]

theorem nextItem_closed_append (ends : nextItem (μ := μ) first text = .ok (.closed rest))
    (behind : List Char) : nextItem (μ := μ) first (text ++ behind) = .ok (.closed (rest ++ behind)) := by
  rcases nextItem_eq_closed_iff.mp ends with ⟨blanks, blank, rfl⟩
  exact nextItem_eq_closed_iff.mpr ⟨blanks, blank, by simp⟩

theorem nextItem_part_append (part : nextItem (μ := μ) first text = .ok (.part inner))
    (behind : List Char) : nextItem (μ := μ) first (text ++ behind) = .ok (.part (inner ++ behind)) := by
  simp only [nextItem] at part ⊢
  cases reached : skipBlanks text with
  | nil => simp [reached] at part
  | cons mark others =>
      rw [skipBlanks_append_behind reached]
      simp only [reached] at part ⊢
      split_ifs at part ⊢ with closes
      · cases part
      · cases part
        rfl
      · cases within : skipBlanks others with
        | nil => simp [within] at part
        | cons head tail =>
            simp only [within, skipBlanks_append_behind within] at part ⊢
            split_ifs at part ⊢
            cases part
            rfl

theorem nextMember_closed_append (ends : nextMember (μ := μ) first text = .ok (.closed rest))
    (behind : List Char) :
    nextMember (μ := μ) first (text ++ behind) = .ok (.closed (rest ++ behind)) := by
  rcases nextMember_eq_closed_iff.mp ends with ⟨blanks, blank, rfl⟩
  exact nextMember_eq_closed_iff.mpr ⟨blanks, blank, by simp⟩

theorem nextMember_part_append (part : nextMember (μ := μ) first text = .ok (.part inner))
    (behind : List Char) :
    nextMember (μ := μ) first (text ++ behind) = .ok (.part (inner ++ behind)) := by
  rcases nextMember_eq_part_iff.mp part with ⟨lead, leads, rfl⟩
  exact nextMember_eq_part_iff.mpr ⟨lead, leads, by simp⟩

theorem ne_nil_of_foldItems {step : σ → Reader μ σ} {state result : σ}
    (found : foldItems step fuel first state text = .ok (result, rest)) : text ≠ [] := by
  rintro rfl
  cases fuel <;> cases found

theorem ne_nil_of_foldMembers {step : σ → String → Reader μ σ} {state result : σ}
    (found : foldMembers step fuel first state text = .ok (result, rest)) : text ≠ [] := by
  rintro rfl
  cases fuel <;> cases found

theorem foldItems_append {step : σ → Reader μ σ} (steps : ∀ state, Local (step state))
    {state result : σ} (found : foldItems step fuel first state text = .ok (result, rest))
    (enough : fuel ≤ more) (behind : List Char) :
    foldItems step more first state (text ++ behind) = .ok (result, rest ++ behind) := by
  induction fuel generalizing more first state text with
  | zero => cases found
  | succ fuel ih =>
      obtain ⟨more, rfl⟩ : ∃ fewer, more = fewer + 1 := ⟨more - 1, by omega⟩
      apply foldItems_succ_eq_ok_iff.mpr
      rcases foldItems_succ_eq_ok_iff.mp found with ⟨ends, rfl⟩ |
        ⟨inner, next, between, part, taken, others⟩
      · exact .inl ⟨nextItem_closed_append ends behind, rfl⟩
      · have item := steps state taken (ne_nil_of_foldItems others) behind
        exact .inr ⟨_, _, _, nextItem_part_append part behind, item,
          ih others (Nat.le_of_succ_le_succ enough)⟩

theorem foldMembers_append {step : σ → String → Reader μ σ}
    (steps : ∀ state name, Local (step state name)) {state result : σ}
    (found : foldMembers step fuel first state text = .ok (result, rest)) (enough : fuel ≤ more)
    (behind : List Char) :
    foldMembers step more first state (text ++ behind) = .ok (result, rest ++ behind) := by
  induction fuel generalizing more first state text with
  | zero => cases found
  | succ fuel ih =>
      obtain ⟨more, rfl⟩ : ∃ fewer, more = fewer + 1 := ⟨more - 1, by omega⟩
      apply foldMembers_succ_eq_ok_iff.mpr
      rcases foldMembers_succ_eq_ok_iff.mp found with ⟨ends, rfl⟩ |
        ⟨inner, name, after, next, between, part, named, taken, others⟩
      · exact .inl ⟨nextMember_closed_append ends behind, rfl⟩
      · have member := steps state name taken (ne_nil_of_foldMembers others) behind
        exact .inr ⟨_, _, _, _, _, nextMember_part_append part behind,
          Quoted.read_append_behind named behind, member,
          ih others (Nat.le_of_succ_le_succ enough)⟩

theorem local_gatherItem {read : Reader μ Document} (reads : Local read) (items : List Document) :
    Local (gatherItem read items) := by
  intro text rest value found continues behind
  refine map_append (f := (· :: items)) found ?_
  intro item taken _
  exact reads taken continues behind

theorem local_gatherMember {read : Reader μ Document} (reads : Local read)
    (members : List (String × Document)) (name : String) :
    Local (gatherMember read members name) := by
  intro text rest value found continues behind
  rcases bind_eq_ok_iff.mp found with ⟨after, colon, mapped⟩
  rw [gatherMember, readColon_append_behind colon behind]
  refine map_append (f := fun document => (name, document) :: members) mapped ?_
  intro document taken _
  exact reads taken continues behind

/-- Whether a scalar is written without anything that marks its end. -/
def Scalar.IsOpen : Scalar → Prop
  | .number _ => True
  | _ => False

/-- Whether a document is written without anything that marks its end. -/
def Document.IsOpen : Document → Prop
  | .scalar own => own.IsOpen
  | _ => False

theorem readScalar_append {mark : Char} {scalar : Scalar} {behind : List Char}
    (read : readScalar (μ := μ) mark text = .ok (scalar, rest))
    (stops : scalar.IsOpen → rest = [] → Numeral.Stops behind) :
    readScalar (μ := μ) mark (text ++ behind) = .ok (scalar, rest ++ behind) := by
  have keyword : ∀ {word : List Char} {own : Scalar},
      ((readWord (μ := μ) word text).map fun rest => (own, rest)) = .ok (scalar, rest) →
        ((readWord (μ := μ) word (text ++ behind)).map fun rest => (own, rest)) =
          .ok (scalar, rest ++ behind) := by
    intro word own found
    rcases map_eq_ok_iff.mp found with ⟨after, taken, same⟩
    cases same
    have longer : readWord (μ := μ) word (text ++ behind) = .ok (rest ++ behind) := by
      rw [readWord_eq_ok_iff.mp taken, List.append_assoc]
      exact readWord_eq_ok_iff.mpr rfl
    rw [longer]
    rfl
  simp only [readScalar] at read ⊢
  split_ifs at read ⊢
  · exact keyword read
  · exact keyword read
  · exact keyword read
  · apply map_append read
    intro string taken _
    exact Quoted.read_append_behind taken behind
  · apply map_append read
    rintro number taken rfl
    exact Numeral.read_append taken (stops trivial)
  · apply map_append read
    rintro number taken rfl
    exact Numeral.read_append taken (stops trivial)

theorem scalarDocument_append {mark : Char} {document : Document} {behind : List Char}
    (read : ((readScalar (μ := μ) mark text).map fun (own, rest) => (Document.scalar own, rest)) =
      .ok (document, rest))
    (stops : document.IsOpen → rest = [] → Numeral.Stops behind) :
    ((readScalar (μ := μ) mark (text ++ behind)).map
        fun (own, rest) => (Document.scalar own, rest)) = .ok (document, rest ++ behind) := by
  apply map_append read
  rintro own taken rfl
  exact readScalar_append taken stops

/-- More text behind a document does not change it, unless it is a number that ends with the text and
the characters behind it could continue it. -/
theorem readDocument_append {document : Document} {behind : List Char}
    (read : readDocument (μ := μ) budget text = .ok (document, rest))
    (stops : document.IsOpen → rest = [] → Numeral.Stops behind) :
    readDocument (μ := μ) budget (text ++ behind) = .ok (document, rest ++ behind) := by
  induction budget generalizing text rest document behind with
  | zero =>
      rw [readDocument] at read ⊢
      cases reached : skipBlanks text with
      | nil => simp [reached] at read
      | cons mark inner =>
          simp only [reached, skipBlanks_append_behind reached] at read ⊢
          exact scalarDocument_append read stops
  | succ budget ih =>
      have parts : Local (readDocument (μ := μ) budget) := by
        intro text rest document found continues behind
        exact ih found fun _ ended => absurd ended continues
      rw [readDocument] at read ⊢
      cases reached : skipBlanks text with
      | nil => simp [reached] at read
      | cons mark inner =>
          have longer : inner.length + 1 ≤ (inner ++ behind).length + 1 := by simp
          simp only [reached, skipBlanks_append_behind reached] at read ⊢
          split_ifs at read ⊢ with array object
          · refine map_append (f := Document.array ∘ List.reverse) read ?_
            intro items taken _
            exact foldItems_append (local_gatherItem parts) taken longer behind
          · refine map_append (f := Document.object ∘ List.reverse) read ?_
            intro members taken _
            exact foldMembers_append (local_gatherMember parts) taken longer behind
          · exact scalarDocument_append read stops

/-- The texts of a document that nothing behind them can change. A number needs a character behind
it that cannot continue it, such as a blank, a comma or a closing bracket. -/
inductive IsComplete (budget : Nat) : Document → List Char → Prop where
  | closed {document : Document} {text : List Char}
      (read : readDocument (μ := Mismatch) budget text = .ok (document, []))
      (ended : ¬ document.IsOpen) : IsComplete budget document text
  | number {number : Number} {text : List Char} {mark : Char}
      (read : readDocument (μ := Mismatch) budget text = .ok (.scalar (.number number), []))
      (ends : Numeral.Ends mark) : IsComplete budget (.scalar (.number number)) (text ++ [mark])

theorem IsComplete.exists_rest {document : Document} (complete : IsComplete budget document text)
    (behind : List Char) :
    ∃ rest, readDocument (μ := Mismatch) budget (text ++ behind) = .ok (document, rest) := by
  cases complete with
  | closed read ended => exact ⟨_, readDocument_append read fun isOpen => absurd isOpen ended⟩
  | @number _ own mark read ends =>
      have stops : Numeral.Stops (mark :: behind) := by
        intro head isHead
        cases isHead
        exact ends
      rw [List.append_assoc, List.singleton_append]
      exact ⟨_, readDocument_append read fun _ _ => stops⟩

theorem readDocument_skipBlanks (budget : Nat) (text : List Char) :
    readDocument (μ := μ) budget (skipBlanks text) = readDocument budget text := by
  have again : skipBlanks (skipBlanks text) = skipBlanks text :=
    List.dropWhile_idempotent isBlank text
  cases budget with
  | zero => simp only [readDocument, again]
  | succ budget => simp only [readDocument, again]

/-- No document begins with the bracket that closes an array. -/
theorem skipBlanks_ne_closing {document : Document}
    (read : readDocument (μ := μ) budget text = .ok (document, rest)) (behind : List Char) :
    skipBlanks text ≠ ']' :: behind := by
  intro closing
  have refused : readScalar (μ := μ) ']' behind = .error .malformed := rfl
  cases budget with
  | zero => simp [readDocument, closing, refused, Except.map] at read
  | succ budget => simp [readDocument, closing, refused, Except.map] at read

end Json

end ContentPolicy
