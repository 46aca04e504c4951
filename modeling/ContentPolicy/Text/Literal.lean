import ContentPolicy.Text.Hex
import ContentPolicy.Text.Unprintable

/-!
# Text literals

A text as it is shown to a programmer: between double quotes, with escapes for the quote, the
backslash and every character that cannot be shown on its own.
-/

namespace ContentPolicy

namespace Text

/-- How a character is shown inside quotes. -/
def showCharacter (character : Char) : String :=
  if character = '"' then "\\\""
  else if character = '\\' then "\\\\"
  else if character = '\n' then "\\n"
  else if character = '\r' then "\\r"
  else if character = '\t' then "\\t"
  else if character = '\x00' then "\\0"
  else if isUnprintable character then "\\u\x7b" ++ Hex.text character.toNat ++ "\x7d"
  else String.singleton character

/-- A text between quotes with its escapes. -/
def literal (text : String) : String := "\"" ++ String.join (text.toList.map showCharacter) ++ "\""

end Text

end ContentPolicy
