/-!
# Schemes

The scheme of an address decides how the rest of it is read. Five schemes of the web and the scheme
of files are special: a backslash is a slash in them, and their path is never empty.
-/

namespace ContentPolicy

namespace Url

/-- How the address of a scheme is read. -/
inductive SchemeKind where
  /-- A special scheme that needs a host. -/
  | web
  /-- The scheme of files, whose host may be missing. -/
  | file
  | ordinary
deriving DecidableEq, Repr

/-- The schemes of the web with the ports that are left out. -/
def webSchemes : List (String × Nat) :=
  [("http", 80), ("https", 443), ("ws", 80), ("wss", 443), ("ftp", 21)]

/-- The port that an address of a scheme leaves out. -/
def defaultPort? (scheme : String) : Option Nat := webSchemes.lookup scheme

def schemeKind (scheme : String) : SchemeKind :=
  if scheme = "file" then .file
  else if (defaultPort? scheme).isSome then .web
  else .ordinary

/-- Whether a backslash is a slash. -/
def SchemeKind.isSpecial (kind : SchemeKind) : Bool := kind ≠ .ordinary

/-- Whether a character parts the segments of a path. -/
def SchemeKind.isSlash (kind : SchemeKind) (character : Char) : Bool :=
  character = '/' || (kind.isSpecial && character = '\\')

/-- Whether a character ends a path. -/
def endsPath (character : Char) : Bool := character = '?' || character = '#'

/-- Whether a character ends the part of an address that names a host. -/
def SchemeKind.endsAuthority (kind : SchemeKind) (character : Char) : Bool :=
  kind.isSlash character || endsPath character

/-- Whether a character may stand in a scheme. -/
def inScheme (character : Char) : Bool :=
  character.isAlphanum || character = '+' || character = '-' || character = '.'

/-- Splits an address at the colon behind its scheme, which is taken to lower case. -/
def splitScheme? (text : List Char) : Option (String × List Char) :=
  match text.head?, text.dropWhile inScheme with
  | some first, ':' :: rest =>
    if first.isAlpha then
      some (String.ofList ((text.takeWhile inScheme).map Char.toLower), rest)
    else none
  | _, _ => none

end Url

end ContentPolicy
