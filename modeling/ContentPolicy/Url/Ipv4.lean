import ContentPolicy.Text.Hex
import ContentPolicy.Text.Split

/-!
# Addresses of four bytes

A host that ends in a number is an address of four bytes. Up to four numbers, each decimal, octal or
hexadecimal, are joined: all but the last are bytes, and the last fills the bytes that remain.
-/

namespace ContentPolicy

namespace Url

/-- An address of four bytes as one number. -/
structure Ipv4 where
  address : Nat
deriving DecidableEq, Repr

namespace Ipv4

/-- The number that digits write in a base, if all are digits of that base. -/
def numberInBase? (base : Nat) (digits : List Char) : Option Nat :=
  digits.foldlM (fun number digit =>
    match Hex.value? digit with
    | some value => if value < base then some (number * base + value) else none
    | none => none) 0

/-- The number of a part: a leading zero marks octal digits, and `0x` hexadecimal ones. -/
def number? : List Char → Option Nat
  | [] => none
  | first :: rest =>
    if first = '0' then
      match rest with
      | [] => some 0
      | mark :: digits =>
        if mark = 'x' ∨ mark = 'X' then numberInBase? 16 digits else numberInBase? 8 rest
    else numberInBase? 10 (first :: rest)

/-- The parts of a host without the empty one behind a final dot. -/
def parts (host : List Char) : List (List Char) :=
  let pieces := Text.splitAtEach (· = '.') host
  if 1 < pieces.length ∧ pieces.getLast? = some [] then pieces.dropLast else pieces

/-- Whether a host ends in a number, so that it can be nothing but an address. -/
def endsInNumber (host : List Char) : Bool :=
  match (parts host).getLast? with
  | none => false
  | some last => (!last.isEmpty && last.all Char.isDigit) || (number? last).isSome

def ofHost? (host : List Char) : Option Ipv4 :=
  match (parts host).mapM number? with
  | none => none
  | some numbers =>
    if 4 < numbers.length then none
    else
      match numbers.getLast? with
      | none => none
      | some last =>
        let leading := numbers.dropLast
        let room := Nat.pow 256 (4 - leading.length)
        if last < room ∧ leading.all (· < 256) then
          let high := leading.foldl (fun total byte => total * 256 + byte) 0
          some ⟨high * room + last⟩
        else none

/-- The four bytes of an address between dots. -/
def text (ip : Ipv4) : String :=
  ".".intercalate <| [0x1000000, 0x10000, 0x100, 1].map fun weight => (ip.address / weight % 256).repr

end Ipv4

end Url

end ContentPolicy
