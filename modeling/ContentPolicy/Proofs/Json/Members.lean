import ContentPolicy.Policy.Json

/-!
# Policies as objects

A policy is read from its text member by member, and each value is judged before the next member is
looked at. The same text can be read to its end as a document first. The main statement says that
this makes no difference to what is accepted: a text writes a policy exactly if it writes an object
whose members hold values, and the policy is the one to which these members are written in order.
-/

namespace ContentPolicy

namespace Json

variable {ε μ σ α β : Type}

theorem map_eq_ok_iff {f : α → β} {result : Except ε α} {value : β} :
    result.map f = .ok value ↔ ∃ found, result = .ok found ∧ f found = value := by
  cases result <;> simp [Except.map]

theorem bind_eq_ok_iff {f : α → Except ε β} {result : Except ε α} {value : β} :
    result.bind f = .ok value ↔ ∃ found, result = .ok found ∧ f found = .ok value := by
  cases result <;> simp [Except.bind]

/-- One round over the items of an array: it ends, or one item is read and the next round begins
behind it. -/
theorem foldItems_succ_eq_ok_iff {step : σ → Reader μ σ} {fuel : Nat} {first : Bool}
    {state result : σ} {text rest : List Char} :
    foldItems step (fuel + 1) first state text = .ok (result, rest) ↔
      nextItem (μ := μ) first text = .ok (.closed rest) ∧ result = state ∨
        ∃ inner next between, nextItem (μ := μ) first text = .ok (.part inner) ∧
          step state inner = .ok (next, between) ∧
          foldItems step fuel false next between = .ok (result, rest) := by
  rw [foldItems]
  cases nextItem (μ := μ) first text with
  | error failure => simp
  | ok next =>
      cases next with
      | closed behind => simp [and_comm, eq_comm]
      | part inner =>
          cases advanced : step state inner with
          | error failure => simp [advanced]
          | ok reached =>
              rcases reached with ⟨next, between⟩
              simp [advanced, and_assoc]

/-- One round over the members of an object: it ends, or one member is read and the next round
begins behind it. -/
theorem foldMembers_succ_eq_ok_iff {step : σ → String → Reader μ σ} {fuel : Nat} {first : Bool}
    {state result : σ} {text rest : List Char} :
    foldMembers step (fuel + 1) first state text = .ok (result, rest) ↔
      nextMember (μ := μ) first text = .ok (.closed rest) ∧ result = state ∨
        ∃ inner name after next between,
          nextMember (μ := μ) first text = .ok (.part inner) ∧
            Quoted.read (μ := μ) inner = .ok (name, after) ∧
            step state name after = .ok (next, between) ∧
            foldMembers step fuel false next between = .ok (result, rest) := by
  rw [foldMembers]
  cases nextMember (μ := μ) first text with
  | error failure => simp
  | ok next =>
      cases next with
      | closed behind => simp [and_comm, eq_comm]
      | part inner =>
          cases named : Quoted.read (μ := μ) inner with
          | error failure => simp [named]
          | ok found =>
              rcases found with ⟨name, after⟩
              cases advanced : step state name after with
              | error failure => simp [named, advanced]
              | ok reached =>
                  rcases reached with ⟨next, between⟩
                  simp [named, advanced, and_assoc]

/-- The value of a member as a document, read from behind its name. -/
def readField : Reader Mismatch Document := fun text =>
  (readColon text).bind (readDocument (nestingLimit - 1))

theorem gatherMember_eq_ok_iff {read : Reader μ Document}
    {members result : List (String × Document)} {name : String} {text rest : List Char} :
    gatherMember read members name text = .ok (result, rest) ↔
      ∃ document, (readColon text).bind read = .ok (document, rest) ∧
        result = (name, document) :: members := by
  simp only [gatherMember, bind_eq_ok_iff, map_eq_ok_iff]
  grind

/-- The members that are found in a text up to the brace that closes their object. -/
inductive Members : Nat → Bool → List Char → List (String × Document) → List Char → Prop where
  | closed {fuel : Nat} {first : Bool} {text rest : List Char}
      (ends : nextMember (μ := Mismatch) first text = .ok (.closed rest)) :
      Members (fuel + 1) first text [] rest
  | member {fuel : Nat} {first : Bool} {text inner after between rest : List Char} {name : String}
      {document : Document} {others : List (String × Document)}
      (part : nextMember (μ := Mismatch) first text = .ok (.part inner))
      (named : Quoted.read (μ := Mismatch) inner = .ok (name, after))
      (holds : readField after = .ok (document, between))
      (behind : Members fuel false between others rest) :
      Members (fuel + 1) first text ((name, document) :: others) rest

/-- A step that judges the document of a member once it has been read can as well judge the members
of an object that has been read to its end. -/
theorem foldMembers_eq_ok_iff {step : σ → String → Reader Mismatch σ}
    (take : σ → String × Document → Option σ)
    (judges : ∀ {state next name text rest}, step state name text = .ok (next, rest) ↔
      ∃ document, readField text = .ok (document, rest) ∧ take state (name, document) = some next)
    {fuel : Nat} {first : Bool} {text rest : List Char} {state result : σ} :
    foldMembers step fuel first state text = .ok (result, rest) ↔
      ∃ members, Members fuel first text members rest ∧
        members.foldlM take state = some result := by
  induction fuel generalizing first text state with
  | zero =>
      refine iff_of_false (by simp [foldMembers]) ?_
      rintro ⟨members, ⟨⟩, -⟩
  | succ fuel ih =>
      rw [foldMembers_succ_eq_ok_iff]
      constructor
      · rintro (⟨ends, rfl⟩ | ⟨inner, name, after, next, between, part, named, taken, behind⟩)
        · exact ⟨[], .closed ends, rfl⟩
        · rcases judges.mp taken with ⟨document, holds, held⟩
          rcases ih.mp behind with ⟨others, found, rest⟩
          refine ⟨(name, document) :: others, .member part named holds found, ?_⟩
          rw [List.foldlM_cons, held]
          exact rest
      · rintro ⟨members, found, taken⟩
        cases found with
        | closed ends => exact .inl ⟨ends, (Option.some.inj taken).symm⟩
        | member part named holds behind =>
            rw [List.foldlM_cons] at taken
            rcases Option.bind_eq_some_iff.mp taken with ⟨next, held, others⟩
            exact .inr ⟨_, _, _, _, _, part, named, judges.mpr ⟨_, holds, held⟩,
              ih.mpr ⟨_, behind, others⟩⟩

/-- A document gathers the members that are found, last to first. -/
theorem foldMembers_gatherMember_eq_ok_iff {fuel : Nat} {first : Bool} {text rest : List Char}
    {gathered result : List (String × Document)} :
    foldMembers (gatherMember (readDocument (μ := Mismatch) (nestingLimit - 1))) fuel first
        gathered text = .ok (result, rest) ↔
      ∃ members, Members fuel first text members rest ∧ result = members.reverse ++ gathered := by
  have gathers : ∀ (members gathered : List (String × Document)),
      members.foldlM (fun others member => some (member :: others)) gathered =
        some (members.reverse ++ gathered) := by
    intro members
    induction members with
    | nil => exact fun _ => rfl
    | cons member rest ih =>
        intro gathered
        rw [List.foldlM_cons, Option.bind_eq_bind, Option.bind_some, ih]
        simp
  rw [foldMembers_eq_ok_iff (fun gathered member => some (member :: gathered))]
  · simp only [gathers, Option.some.injEq, eq_comm]
  · intro gathered next name text rest
    rw [gatherMember_eq_ok_iff]
    simp only [readField, Option.some.injEq, eq_comm]

theorem readDocument_eq_object_iff {members : List (String × Document)} {text rest : List Char} :
    readDocument (μ := Mismatch) nestingLimit text = .ok (.object members, rest) ↔
      ∃ inner, skipBlanks text = '\x7b' :: inner ∧
        Members (inner.length + 1) true inner members rest := by
  have limit : nestingLimit = (nestingLimit - 1) + 1 := rfl
  rw [limit, readDocument]
  cases skipBlanks text with
  | nil => simp
  | cons mark inner =>
      by_cases opens : mark = '\x7b'
      · subst opens
        have notArray : '\x7b' ≠ '[' := by decide
        simp only [notArray, if_false, if_true, map_eq_ok_iff, readMembers, List.cons.injEq,
          true_and, exists_eq_left']
        constructor
        · rintro ⟨⟨gathered, behind⟩, loop, same⟩
          rcases foldMembers_gatherMember_eq_ok_iff.mp loop with ⟨own, found, rfl⟩
          simp only [List.append_nil, List.reverse_reverse, Prod.mk.injEq,
            Document.object.injEq] at same
          rcases same with ⟨rfl, rfl⟩
          exact found
        · intro found
          refine ⟨(members.reverse, rest), ?_, by simp⟩
          exact foldMembers_gatherMember_eq_ok_iff.mpr ⟨members, found, by simp⟩
      · by_cases array : mark = '['
        · simp [array, map_eq_ok_iff]
        · simp [array, opens, map_eq_ok_iff]

theorem readWhole_eq_ok_iff {read : Reader μ α} {text : String} {value : α} :
    readWhole read text = .ok value ↔
      ∃ rest, read text.toList = .ok (value, rest) ∧ (skipBlanks rest).isEmpty = true := by
  simp only [readWhole]
  cases read text.toList with
  | error failure => simp
  | ok found =>
      rcases found with ⟨own, rest⟩
      simp only [Except.ok.injEq, Prod.mk.injEq, and_assoc, exists_and_left, exists_eq_left']
      split
      · next ends => simp [ends]
      · next continues => simp [continues]

end Json

namespace Policy

open Json

theorem entriesOf?_cons_eq_some_iff {name : String} {document : Document}
    {others : List (String × Document)} {entries : List (String × Directive.Value)} :
    entriesOf? ((name, document) :: others) = some entries ↔
      ∃ value rest, Directive.Value.ofDocument? document = some value ∧
        entriesOf? others = some rest ∧ entries = (name, value) :: rest := by
  simp only [entriesOf?, List.mapM_cons, Option.bind_eq_bind, Option.bind_eq_some_iff,
    Option.map_eq_some_iff, Option.pure_def, Option.some.injEq]
  grind

theorem readMember_eq_ok_iff {policy result : Policy} {name : String} {text rest : List Char} :
    readMember policy name text = .ok (result, rest) ↔
      ∃ document value, readField text = .ok (document, rest) ∧
        Directive.Value.ofDocument? document = some value ∧ result = policy.insert name value := by
  simp only [readMember, readField, bind_eq_ok_iff]
  cases readColon (μ := Mismatch) text with
  | error failure => simp
  | ok behind =>
      simp only [Directive.Value.read, map_eq_ok_iff, Except.ok.injEq, exists_eq_left']
      cases readDocument (μ := Mismatch) (nestingLimit - 1) behind with
      | error failure => simp
      | ok found =>
          rcases found with ⟨document, after⟩
          simp only [Directive.Value.ofDocument]
          cases held : Directive.Value.ofDocument? document with
          | none => simp [held, Except.map, and_assoc]
          | some value =>
              simp only [held, Except.map, Except.ok.injEq, Prod.mk.injEq, and_assoc,
                exists_and_left, exists_eq_left', Option.some.injEq]
              grind

/-- A policy takes up the values of the members that are found, first to last. -/
theorem foldMembers_readMember_eq_ok_iff {fuel : Nat} {first : Bool} {text rest : List Char}
    {policy result : Policy} :
    foldMembers readMember fuel first policy text = .ok (result, rest) ↔
      ∃ members entries, Members fuel first text members rest ∧
        entriesOf? members = some entries ∧ result = policy.insertMany entries := by
  have takesUp : ∀ (members : List (String × Document)) (policy : Policy),
      members.foldlM (fun policy member =>
          (Directive.Value.ofDocument? member.2).map (policy.insert member.1)) policy =
        (entriesOf? members).map policy.insertMany := by
    intro members
    induction members with
    | nil => exact fun _ => rfl
    | cons member rest ih =>
        intro policy
        rw [List.foldlM_cons, entriesOf?, List.mapM_cons]
        cases Directive.Value.ofDocument? member.2 with
        | none => rfl
        | some value =>
            have others := ih (policy.insert member.1 value)
            rw [entriesOf?] at others
            simp only [Option.map_some, Option.bind_eq_bind, Option.bind_some, others]
            cases rest.mapM fun member =>
              (Directive.Value.ofDocument? member.2).map (member.1, ·) <;> rfl
  rw [foldMembers_eq_ok_iff fun policy member =>
    (Directive.Value.ofDocument? member.2).map (policy.insert member.1)]
  · simp only [takesUp, Option.map_eq_some_iff]
    grind
  · intro policy next name text rest
    simp only [readMember_eq_ok_iff, Option.map_eq_some_iff]
    grind

theorem read_eq_ok_iff {policy : Policy} {text rest : List Char} :
    read text = .ok (policy, rest) ↔
      ∃ inner, skipBlanks text = '\x7b' :: inner ∧ ∃ members entries,
        Members (inner.length + 1) true inner members rest ∧
          entriesOf? members = some entries ∧ policy = OrderedMap.ofList entries := by
  simp only [read]
  cases skipBlanks text with
  | nil => simp
  | cons mark inner =>
      by_cases opens : mark = '\x7b'
      · simp only [opens, if_true, readMembers, foldMembers_readMember_eq_ok_iff, List.cons.injEq,
          true_and, exists_eq_left']
        rfl
      · simp [opens]

/-- A text writes a policy exactly if it writes an object whose members hold values; the policy is
then what these leave behind when they are written one after another. -/
theorem ofJson_eq_ok_iff {text : String} {policy : Policy} :
    ofJson text = .ok policy ↔
      ∃ members entries, Document.ofJson (μ := Mismatch) text = .ok (.object members) ∧
        entriesOf? members = some entries ∧ policy = OrderedMap.ofList entries := by
  simp only [ofJson, Document.ofJson, readWhole_eq_ok_iff, read_eq_ok_iff,
    readDocument_eq_object_iff]
  grind

end Policy

end ContentPolicy
