import ContentPolicy.Proofs.Json.Collection

/-!
# Documents of a wanted shape

A reader of documents recognizes a shape if it finds a document that holds an item exactly behind
blanks and a text of that item. If it does so for the parts of a collection, the reader one level up
does so for arrays and objects of such parts. What stands behind an item is arbitrary, so that the
statements apply again inside of a larger text.
-/

namespace ContentPolicy

namespace Json

variable {α μ : Type}

/-- A reader that finds the documents of some items exactly in their texts. No text of an item
begins with a blank or the bracket that closes an array. -/
structure Recognizes (read : Reader μ Document) (holds : α → Document → Prop)
    (writes : α → List Char → Prop) : Prop where
  exists_document_iff : ∀ {item text rest},
    (∃ document, read text = .ok (document, rest) ∧ holds item document) ↔
      ∃ blanks own, Blanks blanks ∧ writes item own ∧ text = blanks ++ (own ++ rest)
  exists_mark : ∀ {item own}, writes item own →
    ∃ mark inner, own = mark :: inner ∧ isBlank mark = false ∧ mark ≠ ']'

/-- The texts of an item with blanks around it. -/
def IsPaddedText (writes : α → List Char → Prop) (item : α) (text : List Char) : Prop :=
  ∃ before own after, Blanks before ∧ writes item own ∧ Blanks after ∧
    text = before ++ (own ++ after)

/-- The texts in which an item stands alone, with blanks around it. -/
def IsWholeText (writes : α → List Char → Prop) (item : α) (text : String) : Prop :=
  IsPaddedText writes item text.toList

def IsArrayText (writes : α → List Char → Prop) (items : List α) (text : List Char) : Prop :=
  ∃ own, Parts writes true items own ∧ text = '[' :: (own ++ [']'])

/-- The texts of a member of an object: its name between quotes, a colon and its value. -/
def IsMemberText (writes : α → List Char → Prop) (member : String × α) (text : List Char) : Prop :=
  ∃ name before after value, Quoted.IsText member.1 name ∧ Blanks before ∧ Blanks after ∧
    writes member.2 value ∧ text = name ++ (before ++ ':' :: (after ++ value))

def IsObjectText (writes : α → List Char → Prop) (members : List (String × α))
    (text : List Char) : Prop :=
  ∃ own, Parts (IsMemberText writes) true members own ∧ text = '{' :: (own ++ ['}'])

/-- Whether a document is an array whose items hold some others in order. -/
def HeldByArray (holds : α → Document → Prop) (items : List α) (document : Document) : Prop :=
  ∃ documents, document = .array documents ∧ List.Forall₂ holds items documents

/-- Whether the members of an object hold some items, each under its own name. -/
def HeldByMembers (holds : α → Document → Prop) (items : List (String × α))
    (members : List (String × Document)) : Prop :=
  List.Forall₂ (fun item member => item.1 = member.1 ∧ holds item.2 member.2) items members

def HeldByObject (holds : α → Document → Prop) (items : List (String × α))
    (document : Document) : Prop :=
  ∃ members, document = .object members ∧ HeldByMembers holds items members

/-- A text from a brace to a brace has no blanks around it. -/
theorem isWholeText_braces_iff {writes : α → List Char → Prop} {members : List (String × α)}
    {inner : List Char} :
    IsWholeText (IsObjectText writes) members (String.ofList ('{' :: (inner ++ ['}']))) ↔
      IsObjectText writes members ('{' :: (inner ++ ['}'])) := by
  constructor
  · rintro ⟨before, _, after, blankBefore, ⟨own, parts, rfl⟩, blankAfter, same⟩
    rw [String.toList_ofList] at same
    cases before with
    | cons blank others =>
        rcases List.cons.inj same with ⟨rfl, -⟩
        exact absurd (blankBefore '{' (List.mem_cons_self ..)) (by decide)
    | nil =>
        rcases List.eq_nil_or_concat after with rfl | ⟨others, blank, rfl⟩
        · exact ⟨own, parts, by simpa using same⟩
        · have ends : ('{' :: inner) ++ ['}'] = ('{' :: (own ++ '}' :: others)) ++ [blank] := by
            simpa using same
          rcases List.cons.inj (List.append_inj_right' ends rfl) with ⟨rfl, -⟩
          exact absurd (blankAfter '}' (by simp)) (by decide)
  · intro written
    exact ⟨[], _, [], blanks_nil, written, blanks_nil, by simp⟩

namespace Recognizes

variable {read : Reader μ Document} {holds : α → Document → Prop}
  {writes : α → List Char → Prop} {budget fuel : Nat} {first : Bool} {text own rest : List Char}

theorem exists_whole_iff (recognizes : Recognizes read holds writes) {item : α} {text : String} :
    (∃ document, readWhole read text = .ok document ∧ holds item document) ↔
      IsWholeText writes item text :=
  exists_readWhole_iff recognizes.exists_document_iff text

/-- The items that are read stand in the text as the parts of an array. -/
theorem exists_parts_of_foldItems (recognizes : Recognizes read holds writes)
    {gathered result : List Document}
    (found : foldItems (gatherItem read) fuel first gathered text = .ok (result, rest)) :
    ∃ documents, result = documents.reverse ++ gathered ∧
      ∀ items, List.Forall₂ holds items documents →
        ∃ own, Parts writes first items own ∧ text = own ++ ']' :: rest := by
  induction fuel generalizing first gathered text with
  | zero => simp [foldItems] at found
  | succ fuel ih =>
      rcases foldItems_succ_eq_ok_iff.mp found with ⟨ends, rfl⟩ |
        ⟨inner, next, between, part, taken, others⟩
      · refine ⟨[], rfl, fun items held => ?_⟩
        cases held
        rcases nextItem_eq_closed_iff.mp ends with ⟨blanks, blank, rfl⟩
        exact ⟨blanks, .closed blank, rfl⟩
      · rcases map_eq_ok_iff.mp taken with ⟨⟨document, after⟩, taken, same⟩
        cases same
        rcases ih others with ⟨documents, rfl, later⟩
        refine ⟨document :: documents, by simp, fun items held => ?_⟩
        cases held with
        | cons itemHeld othersHeld =>
            rcases exists_lead_of_nextItem part with ⟨lead, leads, rfl⟩
            rcases recognizes.exists_document_iff.mp ⟨document, taken, itemHeld⟩ with
              ⟨blanks, own, blank, written, rfl⟩
            rcases later _ othersHeld with ⟨behind, parts, rfl⟩
            exact ⟨(lead ++ blanks) ++ (own ++ behind),
              .more (leads.append blank) written parts, by simp⟩

theorem exists_foldItems_of_parts (recognizes : Recognizes read holds writes)
    {items : List α} (parts : Parts writes first items own) (gathered : List Document)
    (enough : (own ++ ']' :: rest).length < fuel) :
    ∃ documents, foldItems (gatherItem read) fuel first gathered (own ++ ']' :: rest) =
        .ok (documents.reverse ++ gathered, rest) ∧ List.Forall₂ holds items documents := by
  induction parts generalizing fuel gathered with
  | closed blank =>
      cases fuel with
      | zero => cases enough
      | succ fuel =>
          refine ⟨[], ?_, .nil⟩
          simp [foldItems, nextItem_eq_closed_iff.mpr ⟨_, blank, rfl⟩]
  | @more first lead own behind item items leads written others ih =>
      cases fuel with
      | zero => cases enough
      | succ fuel =>
          rcases recognizes.exists_mark written with ⟨mark, inner, rfl, notBlank, notClosed⟩
          -- A text of an item has a mark, so one unit of fuel pays for it.
          have item : ∃ document, read (mark :: (inner ++ (behind ++ ']' :: rest))) =
              .ok (document, behind ++ ']' :: rest) ∧ holds item document :=
            recognizes.exists_document_iff.mpr ⟨[], _, blanks_nil, written, rfl⟩
          rcases item with ⟨document, taken, itemHeld⟩
          have short : (behind ++ ']' :: rest).length < fuel := by
            simp at enough ⊢
            omega
          rcases ih (document :: gathered) short with ⟨documents, found, held⟩
          refine ⟨document :: documents, ?_, .cons itemHeld held⟩
          rw [List.append_assoc, List.append_assoc, List.cons_append, foldItems,
            nextItem_append leads notBlank notClosed]
          simp [gatherItem, taken, Except.map, found]

theorem array (recognizes : Recognizes (readDocument (μ := μ) budget) holds writes) :
    Recognizes (readDocument (μ := μ) (budget + 1)) (HeldByArray holds) (IsArrayText writes) where
  exists_document_iff := by
    intro items text rest
    rw [readDocument]
    constructor
    · rintro ⟨_, found, documents, rfl, held⟩
      cases reached : skipBlanks text with
      | nil => simp [reached] at found
      | cons mark inner =>
          rcases skipBlanks_eq_cons_iff.mp reached with ⟨-, blanks, blank, rfl⟩
          simp only [reached] at found
          split_ifs at found with opens object
          · rcases map_eq_ok_iff.mp found with ⟨⟨result, behind⟩, gathered, same⟩
            rcases recognizes.exists_parts_of_foldItems gathered with ⟨own, rfl, parts⟩
            simp only [List.append_nil, List.reverse_reverse, Prod.mk.injEq, Document.array.injEq]
              at same
            rcases same with ⟨rfl, rfl⟩
            rcases parts items held with ⟨own, written, rfl⟩
            exact ⟨blanks, _, blank, ⟨own, written, rfl⟩, by simp [opens]⟩
          · simp [map_eq_ok_iff] at found
          · simp [map_eq_ok_iff] at found
    · rintro ⟨blanks, _, blank, ⟨own, parts, rfl⟩, rfl⟩
      have enough := Nat.lt_succ_self (own ++ ']' :: rest).length
      rcases recognizes.exists_foldItems_of_parts parts [] enough with
        ⟨documents, found, held⟩
      refine ⟨.array documents, ?_, documents, rfl, held⟩
      rw [skipBlanks_brackets blank (by decide)]
      simp only [if_true, readItems]
      rw [found]
      simp [Except.map]
  exists_mark := by
    rintro items _ ⟨own, -, rfl⟩
    exact ⟨'[', _, rfl, by decide, by decide⟩

/-- A member that holds an item is read exactly from a text of the member. -/
theorem exists_member_iff (recognizes : Recognizes read holds writes) {inner : List Char}
    {member : String × α} :
    (∃ between document, Quoted.read (μ := μ) inner = .ok (member.1, between) ∧
        (readColon between).bind read = .ok (document, rest) ∧ holds member.2 document) ↔
      ∃ own, IsMemberText writes member own ∧ '"' :: inner = own ++ rest := by
  simp only [bind_eq_ok_iff, readColon_eq_ok_iff, Quoted.read_eq_ok_iff]
  constructor
  · rintro ⟨between, document, ⟨name, nameWritten, same⟩,
      ⟨behind, ⟨before, blankBefore, rfl⟩, taken⟩, held⟩
    rcases recognizes.exists_document_iff.mp ⟨document, taken, held⟩ with
      ⟨after, value, blankAfter, written, rfl⟩
    exact ⟨_, ⟨name, before, after, value, nameWritten, blankBefore, blankAfter, written, rfl⟩,
      by simp [same]⟩
  · rintro ⟨_, ⟨name, before, after, value, nameWritten, blankBefore, blankAfter, written, rfl⟩,
      same⟩
    rcases recognizes.exists_document_iff.mpr ⟨after, value, blankAfter, written, rfl⟩ with
      ⟨document, taken, held⟩
    exact ⟨_, document, ⟨name, nameWritten, by simpa using same⟩,
      ⟨_, ⟨before, blankBefore, rfl⟩, taken⟩, held⟩

/-- The members that are read stand in the text as the parts of an object. -/
theorem exists_parts_of_foldMembers (recognizes : Recognizes read holds writes)
    {gathered result : List (String × Document)}
    (found : foldMembers (gatherMember read) fuel first gathered text = .ok (result, rest)) :
    ∃ members, result = members.reverse ++ gathered ∧
      ∀ items, HeldByMembers holds items members →
        ∃ own, Parts (IsMemberText writes) first items own ∧ text = own ++ '}' :: rest := by
  induction fuel generalizing first gathered text with
  | zero => simp [foldMembers] at found
  | succ fuel ih =>
      rcases foldMembers_succ_eq_ok_iff.mp found with ⟨ends, rfl⟩ |
        ⟨inner, name, after, next, between, part, named, taken, others⟩
      · refine ⟨[], rfl, fun items held => ?_⟩
        cases held
        rcases nextMember_eq_closed_iff.mp ends with ⟨blanks, blank, rfl⟩
        exact ⟨blanks, .closed blank, rfl⟩
      · rcases gatherMember_eq_ok_iff.mp taken with ⟨document, value, rfl⟩
        rcases ih others with ⟨members, rfl, later⟩
        refine ⟨(name, document) :: members, by simp, fun items held => ?_⟩
        cases held with
        | @cons item _ items _ same othersHeld =>
            rcases item with ⟨_, item⟩
            rcases same with ⟨rfl, itemHeld⟩
            rcases nextMember_eq_part_iff.mp part with ⟨lead, leads, rfl⟩
            rcases recognizes.exists_member_iff.mp ⟨_, _, named, value, itemHeld⟩ with
              ⟨own, written, same⟩
            rcases later _ othersHeld with ⟨behind, parts, rfl⟩
            exact ⟨lead ++ (own ++ behind), .more leads written parts, by simp [same]⟩

theorem exists_foldMembers_of_parts (recognizes : Recognizes read holds writes)
    {items : List (String × α)} (parts : Parts (IsMemberText writes) first items own)
    (gathered : List (String × Document)) (enough : (own ++ '}' :: rest).length < fuel) :
    ∃ members, foldMembers (gatherMember read) fuel first gathered (own ++ '}' :: rest) =
        .ok (members.reverse ++ gathered, rest) ∧ HeldByMembers holds items members := by
  induction parts generalizing fuel gathered with
  | closed blank =>
      cases fuel with
      | zero => cases enough
      | succ fuel =>
          refine ⟨[], foldMembers_succ_eq_ok_iff.mpr (.inl ⟨?_, rfl⟩), .nil⟩
          exact nextMember_eq_closed_iff.mpr ⟨_, blank, rfl⟩
  | @more first lead own behind item items leads written others ih =>
      cases fuel with
      | zero => cases enough
      | succ fuel =>
          have quoted : ∃ inner, own = '"' :: inner := by
            rcases written with ⟨name, before, after, value, nameWritten, -, -, -, rfl⟩
            rcases nameWritten.exists_cons with ⟨inner, rfl⟩
            exact ⟨_, rfl⟩
          rcases quoted with ⟨inner, rfl⟩
          have member : ∃ between document,
              Quoted.read (μ := μ) (inner ++ (behind ++ '}' :: rest)) = .ok (item.1, between) ∧
                (readColon between).bind read = .ok (document, behind ++ '}' :: rest) ∧
                  holds item.2 document :=
            recognizes.exists_member_iff.mpr ⟨_, written, rfl⟩
          rcases member with ⟨between, document, named, value, itemHeld⟩
          have short : (behind ++ '}' :: rest).length < fuel := by
            simp at enough ⊢
            omega
          rcases ih ((item.1, document) :: gathered) short with ⟨members, found, held⟩
          refine ⟨(item.1, document) :: members, ?_, .cons ⟨rfl, itemHeld⟩ held⟩
          rw [List.reverse_cons, List.append_assoc members.reverse, List.singleton_append]
          refine foldMembers_succ_eq_ok_iff.mpr (.inr ⟨_, _, _, _, _, ?_, named, ?_, found⟩)
          · exact nextMember_eq_part_iff.mpr ⟨lead, leads, by simp⟩
          · exact gatherMember_eq_ok_iff.mpr ⟨document, value, rfl⟩

theorem exists_members_iff {holds : α → Document → Prop}
    (recognizes : Recognizes (readDocument (μ := Mismatch) (nestingLimit - 1)) holds writes)
    {items : List (String × α)} :
    (∃ members, Members (text.length + 1) true text members rest ∧
        HeldByMembers holds items members) ↔
      ∃ own, Parts (IsMemberText writes) true items own ∧ text = own ++ '}' :: rest := by
  constructor
  · rintro ⟨members, found, held⟩
    have gathered : foldMembers (gatherMember (readDocument (nestingLimit - 1)))
        (text.length + 1) true [] text = .ok (members.reverse ++ [], rest) :=
      foldMembers_gatherMember_eq_ok_iff.mpr ⟨members, found, rfl⟩
    rcases recognizes.exists_parts_of_foldMembers gathered with ⟨others, same, parts⟩
    rw [List.append_left_inj, List.reverse_inj] at same
    exact parts items (same ▸ held)
  · rintro ⟨own, parts, rfl⟩
    have enough := Nat.lt_succ_self (own ++ '}' :: rest).length
    rcases recognizes.exists_foldMembers_of_parts parts [] enough with ⟨members, gathered, held⟩
    rcases foldMembers_gatherMember_eq_ok_iff.mp gathered with ⟨others, found, same⟩
    rw [List.append_left_inj, List.reverse_inj] at same
    exact ⟨members, same ▸ found, held⟩

theorem object (recognizes : Recognizes (readDocument (μ := μ) budget) holds writes) :
    Recognizes (readDocument (μ := μ) (budget + 1)) (HeldByObject holds) (IsObjectText writes) where
  exists_document_iff := by
    intro items text rest
    rw [readDocument]
    constructor
    · rintro ⟨_, found, members, rfl, held⟩
      cases reached : skipBlanks text with
      | nil => simp [reached] at found
      | cons mark inner =>
          rcases skipBlanks_eq_cons_iff.mp reached with ⟨-, blanks, blank, rfl⟩
          simp only [reached] at found
          split_ifs at found with array opens
          · simp [map_eq_ok_iff] at found
          · rcases map_eq_ok_iff.mp found with ⟨⟨result, behind⟩, gathered, same⟩
            rcases recognizes.exists_parts_of_foldMembers gathered with ⟨own, rfl, parts⟩
            simp only [List.append_nil, List.reverse_reverse, Prod.mk.injEq, Document.object.injEq]
              at same
            rcases same with ⟨rfl, rfl⟩
            rcases parts items held with ⟨own, written, rfl⟩
            exact ⟨blanks, _, blank, ⟨own, written, rfl⟩, by simp [opens]⟩
          · simp [map_eq_ok_iff] at found
    · rintro ⟨blanks, _, blank, ⟨own, parts, rfl⟩, rfl⟩
      have enough := Nat.lt_succ_self (own ++ '}' :: rest).length
      rcases recognizes.exists_foldMembers_of_parts parts [] enough with
        ⟨members, found, held⟩
      refine ⟨.object members, ?_, members, rfl, held⟩
      have notArray : '{' ≠ '[' := by decide
      rw [skipBlanks_brackets blank (by decide)]
      simp only [notArray, if_false, if_true, readMembers]
      rw [found]
      simp [Except.map]
  exists_mark := by
    rintro items _ ⟨own, -, rfl⟩
    exact ⟨'{', _, rfl, by decide, by decide⟩

end Recognizes

end Json

end ContentPolicy
