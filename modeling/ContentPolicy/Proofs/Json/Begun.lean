import ContentPolicy.Proofs.Json.Document

/-!
# Collections that have begun

A text can stop in front of a further part of a collection. The parts before it have then been read,
and what becomes of the whole is decided by the further part: if it is refused, so is the
collection, for the same reason and whatever is behind.
-/

namespace ContentPolicy

namespace Json

variable {α σ : Type}

/-- The texts of some parts of a collection, up to a further one. -/
inductive Begun (writes : α → List Char → Prop) : Bool → List α → List Char → Prop where
  | here {first : Bool} {lead : List Char} (leads : Lead first lead) : Begun writes first [] lead
  | more {first : Bool} {lead own behind : List Char} {item : α} {items : List α}
      (leads : Lead first lead) (written : writes item own)
      (others : Begun writes false items behind) :
      Begun writes first (item :: items) (lead ++ (own ++ behind))

/-- The texts that begin an object: some members, and the name of a further one up to its closing
quote. -/
def EndsInName (writes : α → List Char → Prop) (members : List (String × α)) (name : String)
    (text : List Char) : Prop :=
  ∃ blanks earlier own, Blanks blanks ∧ Begun (IsMemberText writes) true members earlier ∧
    Quoted.IsText name own ∧ text = blanks ++ '{' :: (earlier ++ own)

variable {writes : α → List Char → Prop} {holds : α → Document → Prop}
  {step : σ → String → Reader Mismatch σ} {members : List (String × α)} {name : String} {state : σ}
  {front own behind : List Char} {failure : Failure Mismatch}

/-- Members that a step takes up lead to the next one, and its refusal is that of the object. The
predicate tells for which members a state is still ready. -/
theorem foldMembers_eq_error
    (recognizes : Recognizes (readDocument (μ := Mismatch) (nestingLimit - 1)) holds writes)
    (ready : List (String × α) → σ → Prop)
    (advances : ∀ member members state document text rest, ready (member :: members) state →
      readField text = .ok (document, rest) → holds member.2 document →
        ∃ next, step state member.1 text = .ok (next, rest) ∧ ready members next)
    (fails : ∀ state, ready [] state → step state name behind = .error failure)
    (named : Quoted.IsText name own) {first : Bool}
    (begun : Begun (IsMemberText writes) first members front) (start : ready members state)
    {fuel : Nat} (enough : front.length < fuel) :
    foldMembers step fuel first state (front ++ (own ++ behind)) = .error failure := by
  induction begun generalizing state fuel with
  | @here first lead leads =>
      cases fuel with
      | zero => cases enough
      | succ fuel =>
          rcases named.exists_cons with ⟨inner, rfl⟩
          have part : nextMember (μ := Mismatch) first (lead ++ ('"' :: inner ++ behind)) =
              .ok (.part (inner ++ behind)) :=
            nextMember_eq_part_iff.mpr ⟨lead, leads, rfl⟩
          have read : Quoted.read (μ := Mismatch) (inner ++ behind) = .ok (name, behind) :=
            Quoted.read_eq_ok_iff.mpr ⟨_, named, rfl⟩
          simp only [foldMembers, part, read, fails state start]
  | @more first lead text later member members leads written others ih =>
      cases fuel with
      | zero => cases enough
      | succ fuel =>
          have quoted : ∃ inner, text = '"' :: inner := by
            rcases written with ⟨quotedName, before, after, value, isName, -, -, -, rfl⟩
            rcases isName.exists_cons with ⟨inner, rfl⟩
            exact ⟨_, rfl⟩
          rcases quoted with ⟨inner, rfl⟩
          have read : ∃ between document,
              Quoted.read (μ := Mismatch) (inner ++ (later ++ (own ++ behind))) =
                  .ok (member.1, between) ∧
                readField between = .ok (document, later ++ (own ++ behind)) ∧
                  holds member.2 document :=
            recognizes.exists_member_iff.mpr ⟨_, written, rfl⟩
          rcases read with ⟨between, document, memberNamed, value, held⟩
          rcases advances _ _ _ _ _ _ start value held with ⟨next, taken, nextReady⟩
          have part : nextMember (μ := Mismatch) first
              (lead ++ ('"' :: inner ++ later) ++ (own ++ behind)) =
                .ok (.part (inner ++ (later ++ (own ++ behind)))) :=
            nextMember_eq_part_iff.mpr ⟨lead, leads, by simp⟩
          have short : later.length < fuel := by
            simp only [List.length_append, List.length_cons] at enough
            omega
          simp only [foldMembers, part, memberNamed, taken]
          exact ih nextReady short

theorem EndsInName.readMembers_eq_error (ends : EndsInName writes members name front)
    (recognizes : Recognizes (readDocument (μ := Mismatch) (nestingLimit - 1)) holds writes)
    (ready : List (String × α) → σ → Prop)
    (advances : ∀ member members state document text rest, ready (member :: members) state →
      readField text = .ok (document, rest) → holds member.2 document →
        ∃ next, step state member.1 text = .ok (next, rest) ∧ ready members next)
    (fails : ∀ state, ready [] state → step state name behind = .error failure)
    (start : ready members state) :
    ∃ inner, skipBlanks (front ++ behind) = '{' :: inner ∧
      readMembers step state inner = .error failure := by
  rcases ends with ⟨blanks, earlier, own, blank, begun, named, rfl⟩
  refine ⟨earlier ++ (own ++ behind), ?_, ?_⟩
  · exact (skipBlanks_eq_mark_iff (by decide)).mpr ⟨blanks, blank, by simp⟩
  · have enough : earlier.length < (earlier ++ (own ++ behind)).length + 1 := by
      rw [List.length_append]
      omega
    exact foldMembers_eq_error recognizes ready advances fails named begun start enough

end Json

end ContentPolicy
