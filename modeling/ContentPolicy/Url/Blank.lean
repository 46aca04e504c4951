/-!
# Characters that do not count

Controls and spaces are trimmed from both ends of an address. Tabs and line breaks inside it are
dropped as well: they part nothing and are never written. A drive letter is the one place where they
leave a trace, so the text of a path keeps them until its segments are read.
-/

namespace ContentPolicy

namespace Url

/-- Whether a character is trimmed from the ends of an address. -/
def isTrimmed (character : Char) : Bool := character.toNat ≤ 0x20

/-- Whether a character is dropped from an address wherever it stands. -/
def isDropped (character : Char) : Bool :=
  character = '\t' || character = '\n' || character = '\r'

/-- A text without the characters that are trimmed from its ends. -/
def trimmed (text : List Char) : List Char :=
  ((text.dropWhile isTrimmed).reverse.dropWhile isTrimmed).reverse

/-- A text without the characters that are dropped. -/
def settled (text : List Char) : List Char := text.filter (!isDropped ·)

end Url

end ContentPolicy
