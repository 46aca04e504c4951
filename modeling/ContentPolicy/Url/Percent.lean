import ContentPolicy.Text.Hex

/-!
# Percent encoding

In an address a byte is written as a percent sign and two digits wherever its character could not
stand for itself. Which characters those are depends on the part of the address; the sets grow from
one part to the next.
-/

namespace ContentPolicy

namespace Url

/-- Controls, and everything beyond ASCII. -/
def isControl (character : Char) : Bool := character.toNat < 0x20 || 0x7F ≤ character.toNat

def inFragmentSet (character : Char) : Bool :=
  isControl character || [' ', '"', '<', '>', '\x60'].contains character

def inPathSet (character : Char) : Bool :=
  inFragmentSet character || ['#', '?', '\x7b', '\x7d'].contains character

/-- The characters that are encoded in a user name or password. -/
def inUserinfoSet (character : Char) : Bool :=
  inPathSet character ||
    ['/', ':', ';', '=', '@', '[', '\\', ']', '^', '|'].contains character

def inQuerySet (character : Char) : Bool :=
  isControl character || [' ', '"', '#', '<', '>'].contains character

/-- The characters that are encoded in the query of an address with a special scheme. -/
def inSpecialQuerySet (character : Char) : Bool := inQuerySet character || character = '\x27'

/-- A byte as a percent sign and two digits. -/
def percentByte (byte : UInt8) : List Char :=
  ['%', Hex.upper (byte.toNat / 16), Hex.upper (byte.toNat % 16)]

/-- A text in which the characters of a set are encoded byte by byte. -/
def percentEncode (inSet : Char → Bool) (text : List Char) : List Char :=
  text.flatMap fun character =>
    if inSet character then (String.utf8EncodeChar character).flatMap percentByte
    else [character]

/-- The numbers of the bytes that a text stands for. A percent sign without two digits stands for
itself, and so does every character that is not encoded. -/
def percentDecode : List Char → List Nat
  | [] => []
  | character :: rest =>
    if character = '%' then
      match rest with
      | high :: low :: after =>
        match Hex.value? high, Hex.value? low with
        | some upper, some lower => (upper * 16 + lower) :: percentDecode after
        | _, _ => character.toNat :: percentDecode (high :: low :: after)
      | short => character.toNat :: percentDecode short
    else character.toNat :: percentDecode rest

end Url

end ContentPolicy
