import ContentPolicy.Url.Ipv4

/-!
# Addresses of eight groups

An address of eight groups of up to four hexadecimal digits. One run of zero groups can be left out
between two colons, and the last two groups can be written as four decimal bytes. It is printed in
lower case, without leading zeros, and with its first longest run of zeros left out.
-/

namespace ContentPolicy

namespace Url

/-- An address of eight groups. -/
structure Ipv6 where
  groups : List Nat
deriving DecidableEq, Repr

namespace Ipv6

/-- Groups as they are read: those before the gap, and those after it once there is one. -/
structure Draft where
  before : List Nat
  after : Option (List Nat)

def Draft.push (draft : Draft) (group : Nat) : Draft :=
  match draft.after with
  | none => { draft with before := draft.before ++ [group] }
  | some after => { draft with after := some (after ++ [group]) }

/-- The address of a draft, whose gap is filled with zeros. -/
def Draft.finish? (draft : Draft) : Option Ipv6 :=
  match draft.after with
  | none => if draft.before.length = 8 then some ⟨draft.before⟩ else none
  | some after =>
    let known := draft.before.length + after.length
    some ⟨draft.before ++ List.replicate (8 - known) 0 ++ after⟩

/-- The value of a decimal byte without leading zeros. -/
def byte? (digits : List Char) : Option Nat :=
  if digits.isEmpty || !digits.all Char.isDigit || (1 < digits.length && digits.head? = some '0')
  then none
  else
    match Ipv4.numberInBase? 10 digits with
    | some value => if value < 256 then some value else none
    | none => none

/-- The two groups of four decimal bytes between dots. -/
def dotted? (text : List Char) : Option (Nat × Nat) :=
  match (Text.splitAtEach (· = '.') text).mapM byte? with
  | some [first, second, third, fourth] => some (first * 256 + second, third * 256 + fourth)
  | _ => none

/-- Reads groups while there is room for them. -/
def readGroups : Nat → Draft → List Char → Option Draft
  | _, draft, [] => some draft
  | 0, _, _ :: _ => none
  | room + 1, draft, first :: others =>
    if first = ':' then
      match draft.after with
      | some _ => none
      | none => readGroups room { draft with after := some [] } others
    else
      let digits := ((first :: others).take 4).takeWhile fun digit => (Hex.value? digit).isSome
      let group := (Hex.number? digits).getD 0
      match (first :: others).drop digits.length with
      | [] => some (draft.push group)
      | mark :: rest =>
        if mark = ':' then
          if rest.isEmpty then none else readGroups room (draft.push group) rest
        else if mark = '.' then
          if digits.isEmpty ∨ room = 0 then none
          else
            match dotted? (first :: others) with
            | some (high, low) => some ((draft.push high).push low)
            | none => none
        else none

/-- The address that a text between brackets writes. -/
def ofText? (text : List Char) : Option Ipv6 :=
  match text with
  | ':' :: ':' :: rest => (readGroups 7 ⟨[], some []⟩ rest).bind Draft.finish?
  | ':' :: _ => none
  | _ => (readGroups 8 ⟨[], none⟩ text).bind Draft.finish?

/-- The length of the run of zeros at the front of some groups. -/
def zeroRun (groups : List Nat) : Nat := (groups.takeWhile (· = 0)).length

/-- The start and the length of the first longest run of zeros. -/
def longestZeroRun (groups : List Nat) : Nat × Nat :=
  (List.range groups.length).foldl (fun best start =>
    let run := zeroRun (groups.drop start)
    if best.2 < run then (start, run) else best) (0, 0)

/-- Groups in hexadecimal digits between colons. -/
def groupsText (groups : List Nat) : String := ":".intercalate (groups.map Hex.text)

/-- The text of an address between brackets. -/
def text (ip : Ipv6) : String :=
  let (start, run) := longestZeroRun ip.groups
  let body :=
    if run < 2 then groupsText ip.groups
    else groupsText (ip.groups.take start) ++ "::" ++ groupsText (ip.groups.drop (start + run))
  "[" ++ body ++ "]"

end Ipv6

end Url

end ContentPolicy
