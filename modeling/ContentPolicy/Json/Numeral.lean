import ContentPolicy.Json.Document
import ContentPolicy.Json.Failure

/-!
# JSON numbers

A number is an optional sign, an integer part, an optional fraction and an optional exponent. Its
digits are gathered in a significand of 64 bits; digits that no longer fit only count. A number
without fraction and exponent that fits into 64 bits is an integer, every other number is the
double that the significand gives when it is scaled by a power of ten.
-/

namespace ContentPolicy

namespace Json

namespace Numeral

variable {μ : Type}

def digitValue (digit : Char) : Nat := digit.toNat - '0'.toNat

/-- The first number that a significand cannot hold. -/
def significandLimit : Nat := 0x10000000000000000

/-- The magnitude of the least integer of 64 bits. -/
def leastMagnitude : Nat := 0x8000000000000000

/-- Digits in front of a text. -/
structure Digits where
  /-- The significand with the digits that it could take. -/
  significand : Nat
  taken : Nat
  /-- The text behind them, which begins with a digit only if that digit does not fit. -/
  rest : List Char

/-- Appends the digits in front of a text to a significand, as far as it can take them. -/
def gather (significand taken : Nat) : List Char → Digits
  | [] => ⟨significand, taken, []⟩
  | digit :: rest =>
    if digit.isDigit ∧ significand * 10 + digitValue digit < significandLimit then
      gather (significand * 10 + digitValue digit) (taken + 1) rest
    else ⟨significand, taken, digit :: rest⟩

/-- The greatest exponent of ten that one multiplication applies. -/
def stepExponent : Nat := 308

/-- The double `10 ^ exponent`. -/
def powerOfTen (exponent : Nat) : Float := Float.ofScientific 1 false exponent

/-- A double scaled by a power of ten, or nothing if it leaves the range of doubles. Far below the
range it is scaled in steps until it is zero, which the third step always finds. -/
def scale : Nat → Float → Int → Option Float
  | 0, value, _ => some value
  | steps + 1, value, exponent =>
    if exponent.natAbs ≤ stepExponent then
      if 0 ≤ exponent then
        let scaled := value * powerOfTen exponent.natAbs
        if scaled.isInf then none else some scaled
      else some (value / powerOfTen exponent.natAbs)
    else if value == 0 then some value
    else if 0 ≤ exponent then none
    else scale steps (value / powerOfTen stepExponent) (exponent + stepExponent)

/-- The double of a sign, a significand and an exponent of ten. -/
def floating (negative : Bool) (significand : Nat) (exponent : Int) :
    Except (Failure μ) Number :=
  match scale 4 (UInt64.ofNat significand).toFloat exponent with
  | some value => .ok (.floating (if negative then -value else value))
  | none => .error .malformed

/-- The number of a sign and a significand: negative zero and what lies below the least integer of
64 bits are doubles. -/
def whole (negative : Bool) (significand : Nat) : Number :=
  if negative then
    if 0 < significand ∧ significand ≤ leastMagnitude then .integer (-significand)
    else .floating (-(UInt64.ofNat significand).toFloat)
  else .integer significand

/-- Reads a number from the digits of its exponent on, of which the sign has been read. -/
def readShift (negative : Bool) (significand : Nat) (exponent : Int) (below : Bool) :
    Reader μ Number := fun digits =>
  match digits with
  | [] => .error .truncated
  | first :: _ =>
    if first.isDigit then
      let shift : Nat := (digits.takeWhile Char.isDigit).foldl
        (fun number digit => number * 10 + digitValue digit) 0
      let total := if below then exponent - shift else exponent + shift
      (floating negative significand total).map fun number =>
        (number, digits.dropWhile Char.isDigit)
    else .error .malformed

/-- Reads a number from its exponent on, if it has one. -/
def readExponent (negative : Bool) (significand : Nat) (exponent : Int) : Reader μ Number :=
  fun text =>
    match text with
    | mark :: after =>
      if mark = 'e' ∨ mark = 'E' then
        match after with
        | sign :: digits =>
          if sign = '-' then readShift negative significand exponent true digits
          else if sign = '+' then readShift negative significand exponent false digits
          else readShift negative significand exponent false after
        | [] => .error .truncated
      else (floating negative significand exponent).map fun number => (number, text)
    | [] => (floating negative significand exponent).map fun number => (number, text)

/-- Reads a number from behind its point. -/
def readFraction (negative : Bool) (significand : Nat) (exponent : Int) : Reader μ Number :=
  fun text =>
    let digits := gather significand 0 text
    match digits.rest with
    | [] =>
      if digits.taken = 0 then .error .truncated
      else readExponent negative digits.significand (exponent - digits.taken) []
    | next :: _ =>
      if digits.taken = 0 ∧ !next.isDigit then .error .malformed
      else
        readExponent negative digits.significand (exponent - digits.taken)
          (digits.rest.dropWhile Char.isDigit)

/-- Reads what follows the integer part, of which `dropped` digits did not fit. -/
def readTail (negative : Bool) (significand dropped : Nat) : Reader μ Number := fun text =>
  match text with
  | mark :: after =>
    if mark = '.' then readFraction negative significand dropped after
    else if mark = 'e' ∨ mark = 'E' ∨ 0 < dropped then
      readExponent negative significand dropped text
    else .ok (whole negative significand, text)
  | [] =>
    if 0 < dropped then readExponent negative significand dropped []
    else .ok (whole negative significand, [])

/-- Reads a number from behind its sign. A leading zero stands alone. -/
def read (negative : Bool) : Reader μ Number := fun text =>
  match text with
  | [] => .error .truncated
  | first :: after =>
    if first = '0' then
      match after with
      | [] => readTail negative 0 0 []
      | next :: _ => if next.isDigit then .error .malformed else readTail negative 0 0 after
    else if first.isDigit then
      let digits := gather 0 0 text
      readTail negative digits.significand (digits.rest.takeWhile Char.isDigit).length
        (digits.rest.dropWhile Char.isDigit)
    else .error .malformed

end Numeral

end Json

end ContentPolicy
