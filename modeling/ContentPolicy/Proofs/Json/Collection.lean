import ContentPolicy.Proofs.Json.Members
import ContentPolicy.Proofs.Json.Quoted
import Mathlib.Data.List.Forall2
import Mathlib.Data.List.TakeWhile

/-!
# Texts of collections

The parts of an array or an object stand between its brackets, parted by commas, with blanks
anywhere around them. The readers find a part exactly where such a text has one, and the bracket
that closes the collection exactly at the end of such a text.
-/

namespace ContentPolicy

namespace Json

/-- Whether a text consists of blanks. -/
def Blanks (text : List Char) : Prop := ∀ character ∈ text, isBlank character = true

/-- What stands before a part of a collection: blanks, and a comma unless it is the first part. -/
inductive Lead : Bool → List Char → Prop where
  | first {text : List Char} (blanks : Blanks text) : Lead true text
  | next {before after : List Char} (blanksBefore : Blanks before) (blanksAfter : Blanks after) :
      Lead false (before ++ ',' :: after)

/-- The texts of some parts up to the bracket that closes their collection. -/
inductive Parts {α : Type} (writes : α → List Char → Prop) :
    Bool → List α → List Char → Prop where
  | closed {first : Bool} {text : List Char} (blanks : Blanks text) : Parts writes first [] text
  | more {first : Bool} {lead own behind : List Char} {item : α} {items : List α}
      (leads : Lead first lead) (written : writes item own)
      (others : Parts writes false items behind) :
      Parts writes first (item :: items) (lead ++ (own ++ behind))

theorem Lead.append {first : Bool} {lead blanks : List Char} (leads : Lead first lead)
    (blank : Blanks blanks) : Lead first (lead ++ blanks) := by
  have joined : ∀ {before : List Char}, Blanks before → Blanks (before ++ blanks) := by
    intro before blankBefore character member
    rcases List.mem_append.mp member with early | late
    · exact blankBefore character early
    · exact blank character late
  cases leads with
  | first blankLead => exact .first (joined blankLead)
  | next blankBefore blankAfter =>
      rw [List.append_assoc, List.cons_append]
      exact .next blankBefore (joined blankAfter)

theorem blanks_nil : Blanks [] := fun _ member => absurd member (by simp)

theorem Parts.exists_text {α : Type} {writes : α → List Char → Prop} {first : Bool}
    {items : List α} {text : List Char} (parts : Parts writes first items text) {item : α}
    (member : item ∈ items) : ∃ own, writes item own := by
  induction parts with
  | closed _ => cases member
  | more _ written _ ih =>
      rcases List.mem_cons.mp member with rfl | later
      · exact ⟨_, written⟩
      · exact ih later

/-- Parts that begin a collection can follow others behind a comma. -/
theorem Parts.behind_comma {α : Type} {writes : α → List Char → Prop} {item : α} {items : List α}
    {text : List Char} (parts : Parts writes true (item :: items) text) :
    Parts writes false (item :: items) (',' :: text) := by
  cases parts with
  | more leads written others =>
      cases leads with
      | first blanks => exact .more (.next blanks_nil blanks) written others

/-- The compact form, without a blank, is one of the texts of some parts. -/
theorem parts_intercalate {α : Type} {writes : α → List Char → Prop} {items : List α}
    {texts : List String}
    (written : List.Forall₂ (fun item text => writes item text.toList) items texts) :
    Parts writes true items (",".intercalate texts).toList := by
  induction written with
  | nil => exact .closed blanks_nil
  | @cons item text items texts own others ih =>
      cases others with
      | nil =>
          have alone : Parts writes true [item] ([] ++ (text.toList ++ [])) :=
            .more (.first blanks_nil) own (.closed blanks_nil)
          simpa using alone
      | cons next later =>
          have joined := Parts.more (.first blanks_nil) own ih.behind_comma
          simpa [String.intercalate_cons_cons] using joined

theorem skipBlanks_append {blanks : List Char} (blank : Blanks blanks) (text : List Char) :
    skipBlanks (blanks ++ text) = skipBlanks text :=
  List.dropWhile_append_of_pos blank

theorem skipBlanks_cons_of_not_blank {mark : Char} (notBlank : isBlank mark = false)
    (text : List Char) : skipBlanks (mark :: text) = mark :: text := by
  rw [skipBlanks, List.dropWhile_cons_of_neg (by simp [notBlank])]

theorem exists_blanks_skipBlanks (text : List Char) :
    ∃ blanks, Blanks blanks ∧ text = blanks ++ skipBlanks text :=
  ⟨text.takeWhile isBlank, fun _ => List.mem_takeWhile_imp, List.takeWhile_append_dropWhile.symm⟩

theorem skipBlanks_eq_cons_iff {text rest : List Char} {mark : Char} :
    skipBlanks text = mark :: rest ↔
      isBlank mark = false ∧ ∃ blanks, Blanks blanks ∧ text = blanks ++ mark :: rest := by
  constructor
  · intro reached
    rcases exists_blanks_skipBlanks text with ⟨blanks, blank, same⟩
    have stops := List.head?_dropWhile_not isBlank text
    rw [← skipBlanks, reached] at stops
    rw [reached] at same
    exact ⟨by simpa using stops, blanks, blank, same⟩
  · rintro ⟨notBlank, blanks, blank, rfl⟩
    rw [skipBlanks_append blank, skipBlanks_cons_of_not_blank notBlank]

theorem skipBlanks_eq_mark_iff {mark : Char} (notBlank : isBlank mark = false)
    {text rest : List Char} :
    skipBlanks text = mark :: rest ↔ ∃ blanks, Blanks blanks ∧ text = blanks ++ mark :: rest := by
  rw [skipBlanks_eq_cons_iff, and_iff_right notBlank]

theorem skipBlanks_brackets {blanks : List Char} (blank : Blanks blanks) {opening : Char}
    (notBlank : isBlank opening = false) (own : List Char) (closing : Char) (rest : List Char) :
    skipBlanks (blanks ++ (opening :: (own ++ [closing]) ++ rest)) =
      opening :: (own ++ closing :: rest) :=
  (skipBlanks_eq_mark_iff notBlank).mpr ⟨blanks, blank, by simp⟩

theorem isEmpty_skipBlanks_iff {text : List Char} :
    (skipBlanks text).isEmpty = true ↔ Blanks text := by
  rw [List.isEmpty_iff, skipBlanks, List.dropWhile_eq_nil_iff]
  rfl

variable {μ : Type}

/-- A reader that finds something exactly behind blanks and a text of its own finds it in a whole
text exactly if there are blanks around that text and nothing else. -/
theorem exists_readWhole_iff {β : Type} {read : Reader μ β} {holds : β → Prop}
    {written : List Char → Prop}
    (reads : ∀ {text rest}, (∃ value, read text = .ok (value, rest) ∧ holds value) ↔
      ∃ blanks own, Blanks blanks ∧ written own ∧ text = blanks ++ (own ++ rest)) (text : String) :
    (∃ value, readWhole read text = .ok value ∧ holds value) ↔
      ∃ before own after, Blanks before ∧ written own ∧ Blanks after ∧
        text.toList = before ++ (own ++ after) := by
  simp only [readWhole_eq_ok_iff, isEmpty_skipBlanks_iff]
  constructor
  · rintro ⟨value, ⟨after, found, blankAfter⟩, held⟩
    rcases reads.mp ⟨value, found, held⟩ with ⟨before, own, blankBefore, isOwn, same⟩
    exact ⟨before, own, after, blankBefore, isOwn, blankAfter, same⟩
  · rintro ⟨before, own, after, blankBefore, isOwn, blankAfter, same⟩
    rcases reads.mpr ⟨before, own, blankBefore, isOwn, same⟩ with ⟨value, found, held⟩
    exact ⟨value, ⟨after, found, blankAfter⟩, held⟩

theorem readColon_eq_ok_iff {text rest : List Char} :
    readColon (μ := μ) text = .ok rest ↔
      ∃ blanks, Blanks blanks ∧ text = blanks ++ ':' :: rest := by
  rw [← skipBlanks_eq_mark_iff (by decide), readColon]
  cases skipBlanks text with
  | nil => simp
  | cons mark behind =>
      by_cases same : mark = ':' <;> simp [same]

theorem nextItem_eq_closed_iff {first : Bool} {text rest : List Char} :
    nextItem (μ := μ) first text = .ok (.closed rest) ↔
      ∃ blanks, Blanks blanks ∧ text = blanks ++ ']' :: rest := by
  rw [← skipBlanks_eq_mark_iff (by decide), nextItem]
  cases skipBlanks text with
  | nil => simp
  | cons mark behind =>
      by_cases closes : mark = ']'
      · simp [closes]
      · cases first with
        | true => simp [closes]
        | false =>
            by_cases comma : mark = ','
            · subst comma
              cases reached : skipBlanks behind with
              | nil => simp [reached]
              | cons head tail => by_cases again : head = ']' <;> simp [reached, again]
            · simp [closes, comma]

/-- What is found behind a comma, or where an array begins, depends on the first mark there. -/
theorem nextItem_behind_lead {first : Bool} {lead : List Char} (leads : Lead first lead)
    (text : List Char) :
    nextItem (μ := μ) first (lead ++ text) =
      match skipBlanks text with
      | [] => .error .truncated
      | mark :: rest =>
        if mark = ']' then if first then .ok (.closed rest) else .error .malformed
        else .ok (.part (mark :: rest)) := by
  cases leads with
  | first blanks =>
      rw [nextItem, skipBlanks_append blanks]
      cases skipBlanks text <;> simp
  | next blanksBefore blanksAfter =>
      have comma : ∀ text, skipBlanks (',' :: text) = ',' :: text :=
        skipBlanks_cons_of_not_blank (by decide)
      rw [nextItem, List.append_assoc, skipBlanks_append blanksBefore, List.cons_append, comma]
      cases reached : skipBlanks text <;> simp [skipBlanks_append blanksAfter, reached]

theorem nextItem_append {first : Bool} {lead : List Char} (leads : Lead first lead) {mark : Char}
    (notBlank : isBlank mark = false) (notClosed : mark ≠ ']') (rest : List Char) :
    nextItem (μ := μ) first (lead ++ mark :: rest) = .ok (.part (mark :: rest)) := by
  rw [nextItem_behind_lead leads, skipBlanks_cons_of_not_blank notBlank]
  exact if_neg notClosed

theorem exists_lead_of_nextItem {first : Bool} {text inner : List Char}
    (found : nextItem (μ := μ) first text = .ok (.part inner)) :
    ∃ lead, Lead first lead ∧ text = lead ++ inner := by
  simp only [nextItem] at found
  split at found
  · cases found
  · next mark behind reached =>
      rcases skipBlanks_eq_cons_iff.mp reached with ⟨-, blanks, blank, rfl⟩
      split at found
      · cases found
      · cases first with
        | true =>
            cases found
            exact ⟨blanks, .first blank, rfl⟩
        | false =>
            rw [if_neg Bool.false_ne_true] at found
            split at found
            · next comma =>
                split at found
                · cases found
                · next head tail within =>
                    rcases skipBlanks_eq_cons_iff.mp within with ⟨-, after, blankAfter, rfl⟩
                    split at found
                    · cases found
                    · cases found
                      subst comma
                      exact ⟨blanks ++ ',' :: after, .next blank blankAfter, by simp⟩
            · cases found

theorem nextMember_eq_closed_iff {first : Bool} {text rest : List Char} :
    nextMember (μ := μ) first text = .ok (.closed rest) ↔
      ∃ blanks, Blanks blanks ∧ text = blanks ++ '}' :: rest := by
  have neverClosed : ∀ inner, openName (μ := μ) inner ≠ .ok (.closed rest) := by
    intro inner
    cases inner with
    | nil => simp [openName]
    | cons mark behind => by_cases quote : mark = '"' <;> simp [openName, quote]
  rw [← skipBlanks_eq_mark_iff (by decide), nextMember]
  cases skipBlanks text with
  | nil => simp
  | cons mark behind =>
      by_cases closes : mark = '}'
      · simp [closes]
      · cases first with
        | true => simp [closes, neverClosed]
        | false => by_cases comma : mark = ',' <;> simp [closes, comma, neverClosed]

theorem openName_eq_part_iff {text inner : List Char} :
    openName (μ := μ) text = .ok (.part inner) ↔ text = '"' :: inner := by
  cases text with
  | nil => simp [openName]
  | cons mark behind => by_cases quote : mark = '"' <;> simp [openName, quote]

/-- The next member of an object begins behind a comma, if there is one before it, with a quote. -/
theorem nextMember_eq_part_iff {first : Bool} {text inner : List Char} :
    nextMember (μ := μ) first text = .ok (.part inner) ↔
      ∃ lead, Lead first lead ∧ text = lead ++ '"' :: inner := by
  constructor
  · intro found
    simp only [nextMember] at found
    split at found
    · cases found
    · next mark behind reached =>
        rcases skipBlanks_eq_cons_iff.mp reached with ⟨-, blanks, blank, rfl⟩
        split at found
        · cases found
        · cases first with
          | true =>
              rw [if_pos rfl] at found
              rw [openName_eq_part_iff.mp found]
              exact ⟨blanks, .first blank, rfl⟩
          | false =>
              rw [if_neg Bool.false_ne_true] at found
              split at found
              · next comma =>
                  have quote := openName_eq_part_iff.mp found
                  rcases skipBlanks_eq_cons_iff.mp quote with ⟨-, after, blankAfter, rfl⟩
                  subst comma
                  exact ⟨blanks ++ ',' :: after, .next blank blankAfter, by simp⟩
              · cases found
  · rintro ⟨lead, leads, rfl⟩
    have quote : skipBlanks ('"' :: inner) = '"' :: inner :=
      skipBlanks_cons_of_not_blank (by decide) inner
    cases leads with
    | first blanks =>
        rw [nextMember, skipBlanks_append blanks, quote]
        simp [openName]
    | next blanksBefore blanksAfter =>
        rw [nextMember, List.append_assoc, skipBlanks_append blanksBefore, List.cons_append,
          skipBlanks_cons_of_not_blank (by decide)]
        simp [skipBlanks_append blanksAfter, quote, openName]

end Json

end ContentPolicy
