import ContentPolicy.Text.CaseTables

/-!
# Lower case

The lower-case form of a text takes each character to its small form. Two characters do not follow
their run: the capital i with a dot becomes two characters, and a capital sigma becomes a final
sigma where it ends a word.
-/

namespace ContentPolicy

namespace Text

/-- The small form of a letter in a run, if the run has it. -/
def CaseRun.small? (run : CaseRun) (code : Nat) : Option Nat :=
  if run.first ≤ code ∧ code ≤ run.last ∧ (code - run.first) % run.step = 0 then
    some (code + run.distance).toNat
  else none

/-- The small form of a character without regard to its neighbours. -/
def smallForm (character : Char) : List Char :=
  if character.toNat < 0x80 then [character.toLower]
  else if character = '\u0130' then ['i', '\u0307']
  else
    match caseRuns.findSome? (·.small? character.toNat) with
    | some code => [Char.ofNat code]
    | none => [character]

def isCased (character : Char) : Bool := inRanges casedRanges character.toNat

/-- Whether a character is passed over when the end of a word is looked for. -/
def isCaseIgnorable (character : Char) : Bool := inRanges caseIgnorableRanges character.toNat

/-- Whether the first character that counts has case. -/
def reachesCased (text : List Char) : Bool :=
  match text.dropWhile isCaseIgnorable with
  | [] => false
  | character :: _ => isCased character

/-- Whether a place between two texts is the end of a word; the text before it is reversed. -/
def endsWord (before after : List Char) : Bool := reachesCased before && !reachesCased after

/-- The lower-case form of a text behind another one, which is reversed. -/
def lowerAfter (before : List Char) : List Char → List Char
  | [] => []
  | character :: after =>
    (if character = '\u03a3' then [if endsWord before after then '\u03c2' else '\u03c3']
      else smallForm character) ++ lowerAfter (character :: before) after

def lowercase (text : String) : String := String.ofList (lowerAfter [] text.toList)

end Text

end ContentPolicy
