/-!
# Hexadecimal digits

The values of hexadecimal digits of either case, and the digits of a number.
-/

namespace ContentPolicy

namespace Hex

def value? (digit : Char) : Option Nat :=
  if '0' ≤ digit ∧ digit ≤ '9' then some (digit.toNat - '0'.toNat)
  else if 'a' ≤ digit ∧ digit ≤ 'f' then some (digit.toNat - 'a'.toNat + 10)
  else if 'A' ≤ digit ∧ digit ≤ 'F' then some (digit.toNat - 'A'.toNat + 10)
  else none

/-- The lower-case digit of a value below sixteen. -/
def lower (value : Nat) : Char := value.digitChar

/-- The upper-case digit of a value below sixteen. -/
def upper (value : Nat) : Char := value.digitChar.toUpper

/-- A number in lower-case hexadecimal digits. -/
def text (number : Nat) : String := String.ofList (Nat.toDigits 16 number)

/-- The number that a list of hexadecimal digits writes. -/
def number? (digits : List Char) : Option Nat :=
  digits.foldlM (fun number digit => (value? digit).map (number * 16 + ·)) 0

theorem value?_lower {value : Nat} (small : value < 16) : value? (lower value) = some value := by
  have check : ∀ candidate : Fin 16, value? (lower candidate) = some candidate.val := by decide
  exact check ⟨value, small⟩

end Hex

end ContentPolicy
