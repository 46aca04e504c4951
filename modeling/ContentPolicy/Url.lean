import ContentPolicy.Url.Host
import ContentPolicy.Url.Path

/-!
# Addresses

An address names a page: a scheme, an authority with a host, a path, a query and a fragment. It is
read from a text with the tolerance of browsers, which trims the text, drops tabs and line breaks
and takes backslashes for slashes, and it is printed in one normal form.
-/

namespace ContentPolicy

/-- The part of an address that says where to connect. -/
structure Url.Authority where
  username : String
  password : String
  host : Url.Host
  port : Option Nat
deriving DecidableEq, Repr

structure Url where
  scheme : String
  authority : Option Url.Authority
  path : String
  query : Option String
  fragment : Option String
deriving DecidableEq, Repr

namespace Url

/-- The text of user name and password, which ends in an at sign unless both are missing. -/
def Authority.credentials (authority : Authority) : String :=
  if authority.username.isEmpty ∧ authority.password.isEmpty then ""
  else
    authority.username ++
      (if authority.password.isEmpty then "" else ":" ++ authority.password) ++ "@"

def Authority.text (authority : Authority) : String :=
  authority.credentials ++ authority.host.text ++
    match authority.port with
    | some port => ":" ++ port.repr
    | none => ""

/-- The text of a part that has a mark in front if it is there. -/
def marked (mark : String) : Option String → String
  | some part => mark ++ part
  | none => ""

def fullPath (url : Url) : String := url.path ++ marked "?" url.query

/-- The normal form of an address. A path that begins with two slashes and follows no authority is
kept apart from the scheme by a dot. -/
def text (url : Url) : String :=
  let middle :=
    match url.authority with
    | some authority => "//" ++ authority.text
    | none => if "//".toList.isPrefixOf url.path.toList then "/." else ""
  url.scheme ++ ":" ++ middle ++ url.fullPath ++ marked "#" url.fragment

/-- The query and the fragment at the end of an address. -/
def readQueryAndFragment (kind : SchemeKind) (text : List Char) :
    Option String × Option String :=
  let querySet := if kind.isSpecial then inSpecialQuerySet else inQuerySet
  let fragment (rest : List Char) : Option String :=
    match rest with
    | [] => none
    | _ :: characters => some (String.ofList (percentEncode inFragmentSet characters))
  match text with
  | [] => (none, none)
  | mark :: rest =>
    if mark = '?' then
      let query := rest.takeWhile (· ≠ '#')
      (some (String.ofList (percentEncode querySet query)), fragment (rest.drop query.length))
    else (none, fragment text)

/-- An address from its front parts and the text of its query and fragment. -/
def assemble (scheme : String) (authority : Option Authority) (path rest : List Char) : Url :=
  let (query, fragment) := readQueryAndFragment (schemeKind scheme) rest
  { scheme, authority, path := String.ofList path, query, fragment }

/-- The text before the last at sign, if there is one, and the text behind it. -/
def splitCredentials (text : List Char) : Option (List Char) × List Char :=
  let behind := (text.reverse.takeWhile (· ≠ '@')).reverse
  if behind.length = text.length then (none, text)
  else (some (text.take (text.length - behind.length - 1)), behind)

/-- The user name and the password of a text before an at sign; the first colon parts them. -/
def readCredentials (text : List Char) : String × String :=
  let username := text.takeWhile (· ≠ ':')
  let password := text.drop (username.length + 1)
  (String.ofList (percentEncode inUserinfoSet username),
    String.ofList (percentEncode inUserinfoSet password))

/-- The characters of a host, which a colon ends unless it stands in brackets. -/
def hostCharacters (bracketed : Bool) : List Char → List Char
  | [] => []
  | character :: rest =>
    if character = ':' ∧ !bracketed then []
    else
      let inside := if character = '[' then true else if character = ']' then false else bracketed
      character :: hostCharacters inside rest

/-- The port behind a colon, and the text behind the port. The default port of a scheme is left
out. -/
def readPort (scheme : String) (text : List Char) : Except Error (Option Nat × List Char) :=
  let digits := text.takeWhile Char.isDigit
  let rest := text.drop digits.length
  let port := digits.foldl (fun number digit => number * 10 + (digit.toNat - '0'.toNat)) 0
  if 0xFFFF < port then .error .invalidPort
  else
    match rest with
    | [] => .ok (if digits.isEmpty ∨ defaultPort? scheme = some port then none else some port, [])
    | mark :: _ =>
      if mark = '/' ∨ mark = '\\' ∨ endsPath mark then
        .ok (if digits.isEmpty ∨ defaultPort? scheme = some port then none else some port, rest)
      else .error .invalidPort

/-- Reads a host and a port. Only an ordinary scheme can go without a host, and then it has no port
either. -/
def readHostAndPort (scheme : String) (text : List Char) :
    Except Error (Host × Option Nat × List Char) :=
  let name := hostCharacters false text
  let rest := text.drop name.length
  let parsed :=
    match schemeKind scheme with
    | .ordinary => Host.ofOrdinary name
    | _ => if name.isEmpty then .error .emptyHost else Host.ofSpecial name
  match parsed with
  | .error cause => .error cause
  | .ok host =>
    match rest with
    | [] => .ok (host, none, [])
    | _ :: digits =>
      if host.isEmpty then .error .emptyHost
      else (readPort scheme digits).map fun (port, rest) => (host, port, rest)

/-- The path behind an authority. A special address always has one. -/
def readAuthorityPath (kind : SchemeKind) (text : List Char) : List Char × List Char :=
  let characters := text.takeWhile (!endsPath ·)
  let rest := text.drop characters.length
  if kind = .ordinary ∧ characters.isEmpty then ([], rest)
  else ((readPath kind (skipSlash kind characters)).1, rest)

/-- Reads an address from behind the slashes in front of its authority. -/
def readAuthority (scheme : String) (text : List Char) : Except Error Url :=
  let kind := schemeKind scheme
  let front := text.takeWhile (!kind.endsAuthority ·)
  let rest := text.drop front.length
  let (credentials, location) := splitCredentials front
  if credentials = some [] ∧ location.isEmpty ∧ !rest.isEmpty then .error .emptyHost
  else
    let (username, password) := readCredentials (credentials.getD [])
    match readHostAndPort scheme location with
    | .error cause => .error cause
    | .ok (host, port, remaining) =>
      if host.isEmpty ∧ !(username.isEmpty ∧ password.isEmpty) then .error .emptyHost
      else
        let (path, rest) := readAuthorityPath kind (remaining ++ rest)
        .ok (assemble scheme (some ⟨username, password, host, port⟩) path rest)

/-- The text behind a slash in front of the address of a file, if there is one. -/
def behindSlash? (text : List Char) : Option (List Char) :=
  match text.dropWhile isDropped with
  | [] => none
  | first :: rest => if SchemeKind.file.isSlash first then some rest else none

/-- The address of a file with a host, from its path on. -/
def fileAddress (host : Host) (text : List Char) : Url :=
  let characters := text.takeWhile (!endsPath ·)
  let (path, dropsHost) := readPath .file characters
  let kept := if dropsHost then .domain "" else host
  assemble "file" (some ⟨"", "", kept, none⟩) path (settled (text.drop characters.length))

/-- Reads the address of a file from behind its scheme. Two slashes begin a host; a drive letter in
its place belongs to the path, and the local host is left out. Without a host the slash behind it is
read as part of the path, so that a drive letter behind that slash is not in front. -/
def readFile (text : List Char) : Except Error Url :=
  match behindSlash? text with
  | none => .ok (fileAddress (.domain "") text)
  | some path =>
    match behindSlash? path with
    | none => .ok (fileAddress (.domain "") path)
    | some location =>
      let part := location.takeWhile (!SchemeKind.file.endsAuthority ·)
      let name := settled part
      if name.isEmpty ∨ isDriveLetter name then .ok (fileAddress (.domain "") location)
      else
        match Host.ofSpecial name with
        | .error cause => .error cause
        | .ok host =>
          let rest := location.drop part.length
          if host = .domain "localhost" then .ok (fileAddress (.domain "") rest)
          else .ok (fileAddress host ((behindSlash? rest).getD rest))

/-- Reads the address of an ordinary scheme from behind its scheme. Without two slashes it has no
authority, and without a slash its path is kept as it is. -/
def readOrdinary (scheme : String) (text : List Char) : Except Error Url :=
  match text with
  | '/' :: '/' :: rest => readAuthority scheme rest
  | '/' :: rest =>
    let characters := rest.takeWhile (!endsPath ·)
    .ok (assemble scheme none (readPath .ordinary characters).1 (rest.drop characters.length))
  | _ =>
    let characters := text.takeWhile (!endsPath ·)
    .ok (assemble scheme none (percentEncode isControl characters) (text.drop characters.length))

def ofText (text : String) : Except Error Url :=
  let text := trimmed text.toList
  match splitScheme? (settled text) with
  | none => .error .relativeWithoutBase
  | some (scheme, rest) =>
    match schemeKind scheme with
    | .web => readAuthority scheme (rest.dropWhile fun mark => mark = '/' || mark = '\\')
    | .file => readFile ((text.dropWhile (· ≠ ':')).drop 1)
    | .ordinary => readOrdinary scheme rest

end Url

end ContentPolicy
