/-!
# Shortest decimals

A binary floating-point number stands for all reals that round to it. Its shortest decimal is the
decimal with the fewest digits among those reals, and of several such the one nearest to the
number. All arithmetic is exact and on natural numbers.
-/

namespace ContentPolicy

/-- The number `coefficient * 10 ^ exponent`. -/
structure Decimal where
  coefficient : Nat
  exponent : Int
deriving DecidableEq, Repr

namespace Decimal

/-- The number `mantissa * 2 ^ exponent`, whose lower neighbour is nearer when it is a power of two
with room below. -/
structure Binary where
  mantissa : Nat
  exponent : Int
  /-- Whether the gap to the lower neighbour is half of the gap to the upper one. -/
  narrowBelow : Bool
deriving DecidableEq, Repr

/-- The leading bit of a mantissa, which the bits of a double leave out. -/
def hiddenBit : Nat := 0x10000000000000

/-- The bit of a double that holds its sign. -/
def signBit : Nat := 0x8000000000000000

/-- The magnitude of a finite double from its bits, without the sign. -/
def Binary.ofBits (bits : Nat) : Binary :=
  let field : Nat := bits / hiddenBit % 0x800
  let fraction : Nat := bits % hiddenBit
  if field = 0 then ⟨fraction, -1074, false⟩
  else ⟨fraction + hiddenBit, (field : Int) - 1075, fraction = 0 ∧ 1 < field⟩

/-- The reals that round to a number, as fractions over one denominator. -/
structure Interval where
  lower : Nat
  value : Nat
  upper : Nat
  denominator : Nat
  /-- Whether the ends belong to the interval. -/
  closed : Bool
deriving DecidableEq, Repr

/-- The reals that round to a binary number; ties go to the even mantissa. -/
def Binary.interval (number : Binary) : Interval :=
  let quarter := number.exponent - 2
  let scale := Nat.pow 2 quarter.toNat
  { lower := (4 * number.mantissa - if number.narrowBelow then 1 else 2) * scale
    value := 4 * number.mantissa * scale
    upper := (4 * number.mantissa + 2) * scale
    denominator := Nat.pow 2 (-quarter).toNat
    closed := number.mantissa % 2 = 0 }

def digitCount (number : Nat) : Nat := (Nat.toDigits 10 number).length

/-- The exponent of the leading digit of a positive fraction. -/
def leadingExponent (numerator denominator : Nat) : Int :=
  if denominator ≤ numerator then (digitCount (numerator / denominator) : Int) - 1
  else -(digitCount ((denominator - 1) / numerator) : Int)

/-- Whether `candidate * 10 ^ exponent` belongs to an interval. -/
def Interval.holds (interval : Interval) (candidate : Nat) (exponent : Int) : Bool :=
  let point := candidate * Nat.pow 10 exponent.toNat * interval.denominator
  let lower := interval.lower * Nat.pow 10 (-exponent).toNat
  let upper := interval.upper * Nat.pow 10 (-exponent).toNat
  if interval.closed then lower ≤ point && point ≤ upper else lower < point && point < upper

/-- The neighbour of the value on the grid of multiples of `10 ^ exponent` that belongs to the
interval; of two the nearer, in a tie the even one. -/
def Interval.onGrid? (interval : Interval) (exponent : Int) : Option Nat :=
  let value := interval.value * Nat.pow 10 (-exponent).toNat
  let step := interval.denominator * Nat.pow 10 exponent.toNat
  let below := value / step
  let remainder := value % step
  match interval.holds below exponent && 0 < below, interval.holds (below + 1) exponent with
  | true, true =>
    if 2 * remainder < step ∨ (2 * remainder = step ∧ below % 2 = 0) then some below
    else some (below + 1)
  | true, false => some below
  | false, true => some (below + 1)
  | false, false => none

/-- The shortest decimal of an interval on the grids that follow one of `shown` digits. -/
def Interval.search (interval : Interval) (leading : Int) : Nat → Nat → Option Decimal
  | 0, _ => none
  | tries + 1, shown =>
    let exponent := leading - shown
    match interval.onGrid? exponent with
    | some coefficient => some ⟨coefficient, exponent⟩
    | none => interval.search leading tries (shown + 1)

/-- A decimal without trailing zeros in its coefficient. -/
def trim : Nat → Decimal → Decimal
  | 0, decimal => decimal
  | tries + 1, decimal =>
    if decimal.coefficient % 10 = 0 ∧ decimal.coefficient ≠ 0 then
      trim tries ⟨decimal.coefficient / 10, decimal.exponent + 1⟩
    else decimal

/-- The shortest decimal of a positive binary number; seventeen digits always suffice. -/
def Binary.shortest (number : Binary) : Decimal :=
  let interval := number.interval
  let leading := leadingExponent interval.value interval.denominator
  match interval.search leading 17 0 with
  | some decimal => trim 20 decimal
  | none => ⟨0, 0⟩

/-- How decimals are laid out: which leading exponents are written without an exponent. -/
structure Layout where
  smallest : Int
  largest : Int
deriving DecidableEq, Repr

/-- The digits of a decimal with its point in place and at least one digit on each side. -/
def positional (digits : List Char) (leading : Int) : List Char :=
  if leading < 0 then
    '0' :: '.' :: List.replicate (-leading - 1).toNat '0' ++ digits
  else
    let whole := leading.toNat + 1
    let fraction := digits.drop whole
    digits.take whole ++ List.replicate (whole - digits.length) '0' ++
      '.' :: (if fraction.isEmpty then ['0'] else fraction)

/-- The digits of a decimal with an exponent, which always has its sign. -/
def scientific (digits : List Char) (leading : Int) : List Char :=
  let fraction := digits.drop 1
  digits.take 1 ++ (if fraction.isEmpty then [] else '.' :: fraction) ++
    'e' :: (if leading < 0 then '-' else '+') :: Nat.toDigits 10 leading.natAbs

/-- The text of a positive decimal in a layout. -/
def text (layout : Layout) (decimal : Decimal) : String :=
  let digits := Nat.toDigits 10 decimal.coefficient
  let leading := decimal.exponent + digits.length - 1
  String.ofList <|
    if layout.smallest ≤ leading ∧ leading ≤ layout.largest then positional digits leading
    else scientific digits leading

/-- The text of a finite double: its sign, then its shortest decimal; zero keeps its sign. -/
def textOfFloat (layout : Layout) (value : Float) : String :=
  let bits := value.toBits.toNat
  let sign := if signBit ≤ bits then "-" else ""
  let magnitude := Binary.ofBits (bits % signBit)
  sign ++ if magnitude.mantissa = 0 then "0.0" else magnitude.shortest.text layout

end Decimal

end ContentPolicy
