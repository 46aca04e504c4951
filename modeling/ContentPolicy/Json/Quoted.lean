import ContentPolicy.Json.Failure
import ContentPolicy.Text.Hex

/-!
# JSON strings

A string is written between double quotes. The quote, the backslash and the control characters are
escaped when it is written; when it is read, every other character may be escaped as well, those
beyond the first plane as a pair of surrogates.
-/

namespace ContentPolicy

namespace Json

namespace Quoted

/-- How a character is written inside quotes. -/
def escape (character : Char) : List Char :=
  if character = '"' then ['\\', '"']
  else if character = '\\' then ['\\', '\\']
  else if character = '\x08' then ['\\', 'b']
  else if character = '\x0c' then ['\\', 'f']
  else if character = '\n' then ['\\', 'n']
  else if character = '\r' then ['\\', 'r']
  else if character = '\t' then ['\\', 't']
  else if character.toNat < 0x20 then
    ['\\', 'u', '0', '0', Hex.lower (character.toNat / 16), Hex.lower (character.toNat % 16)]
  else [character]

def write (text : String) : String :=
  String.ofList ('"' :: text.toList.flatMap escape ++ ['"'])

/-- The character that a mark after a backslash stands for. -/
def unescape? (mark : Char) : Option Char :=
  if mark = '"' then some '"'
  else if mark = '\\' then some '\\'
  else if mark = '/' then some '/'
  else if mark = 'b' then some '\x08'
  else if mark = 'f' then some '\x0c'
  else if mark = 'n' then some '\n'
  else if mark = 'r' then some '\r'
  else if mark = 't' then some '\t'
  else none

/-- Whether a code unit is the second of a surrogate pair. -/
def isLowSurrogate (unit : Nat) : Bool := 0xDC00 ≤ unit && unit ≤ 0xDFFF

/-- Whether a code unit is the first of a surrogate pair. -/
def isHighSurrogate (unit : Nat) : Bool := 0xD800 ≤ unit && unit ≤ 0xDBFF

/-- The character of a surrogate pair. -/
def ofSurrogates (high low : Nat) : Char :=
  Char.ofNat (0x10000 + (high - 0xD800) * 0x400 + (low - 0xDC00))

variable {μ : Type}

/-- The failure of a code unit with fewer than four characters left: the text has ended, unless its
last bytes already rule a code unit out. -/
def shortUnit (text : List Char) : Failure μ :=
  if (String.ofList text).utf8ByteSize < 4 then .truncated else .malformed

/-- The result of reading on, with a character before the rest of the string. -/
def prepend (character : Char) (result : Except (Failure μ) (List Char × List Char)) :
    Except (Failure μ) (List Char × List Char) :=
  result.map fun (characters, rest) => (character :: characters, rest)

/-- Reads a string from behind its opening quote to its closing quote. -/
def readCharacters : List Char → Except (Failure μ) (List Char × List Char)
  | [] => .error .truncated
  | character :: rest =>
    if character = '"' then .ok ([], rest)
    else if character = '\\' then
      match rest with
      | [] => .error .truncated
      | mark :: text =>
        if mark = 'u' then
          match text with
          | first :: second :: third :: fourth :: after =>
            match Hex.number? [first, second, third, fourth] with
            | none => .error .malformed
            | some unit =>
              if isLowSurrogate unit then .error .malformed
              else if isHighSurrogate unit then
                match after with
                | [] => .error .truncated
                | slash :: tail =>
                  if slash ≠ '\\' then .error .malformed
                  else
                    match tail with
                    | [] => .error .truncated
                    | letter :: digits =>
                      if letter ≠ 'u' then .error .malformed
                      else
                        match digits with
                        | fifth :: sixth :: seventh :: eighth :: others =>
                          match Hex.number? [fifth, sixth, seventh, eighth] with
                          | none => .error .malformed
                          | some low =>
                            if isLowSurrogate low then
                              prepend (ofSurrogates unit low) (readCharacters others)
                            else .error .malformed
                        | short => .error (shortUnit short)
              else prepend (Char.ofNat unit) (readCharacters after)
          | short => .error (shortUnit short)
        else
          match unescape? mark with
          | some plain => prepend plain (readCharacters text)
          | none => .error .malformed
    else if character.toNat < 0x20 then .error .malformed
    else prepend character (readCharacters rest)

/-- Reads a string from behind its opening quote. -/
def read : Reader μ String := fun text =>
  (readCharacters text).map fun (characters, rest) => (String.ofList characters, rest)

end Quoted

end Json

end ContentPolicy
