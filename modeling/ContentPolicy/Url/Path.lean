import ContentPolicy.Text.Split
import ContentPolicy.Url.Blank
import ContentPolicy.Url.Percent
import ContentPolicy.Url.Scheme

/-!
# Paths

The path of an address is a list of segments. Dot segments are taken out while it is read: a single
dot stands for nothing, and a double dot takes the segment before it away, unless that segment
looks like the letter of a drive. In addresses of files a drive letter in front is written with a
colon and takes the place of a host, and empty segments in front are dropped.
-/

namespace ContentPolicy

namespace Url

/-- Whether a segment is a letter of a drive, with a colon or a bar. -/
def isDriveLetter (segment : List Char) : Bool :=
  match segment with
  | [letter, mark] => letter.isAlpha && (mark = ':' || mark = '|')
  | _ => false

/-- Whether a segment begins with the letter of a drive, which ends there or at a backslash. -/
def startsWithDrive (segment : List Char) : Bool :=
  match segment with
  | letter :: mark :: rest =>
    isDriveLetter [letter, mark] && (rest.isEmpty || rest.head? = some '\\')
  | _ => false

/-- A segment with its encoded dots written out. -/
def plainDots : List Char → List Char
  | '%' :: '2' :: 'e' :: rest => '.' :: plainDots rest
  | '%' :: '2' :: 'E' :: rest => '.' :: plainDots rest
  | character :: rest => character :: plainDots rest
  | [] => []

/-- Whether a segment stands for the directory itself. -/
def isSingleDot (segment : List Char) : Bool := plainDots segment = ['.']

/-- Whether a segment stands for the directory above. -/
def isDoubleDot (segment : List Char) : Bool := plainDots segment = ['.', '.']

/-- Segments last to first without the last one; the letter of a drive stays. -/
def shorten (segments : List (List Char)) : List (List Char) :=
  match segments with
  | [] => []
  | last :: others => if startsWithDrive last then last :: others else others

structure PathDraft where
  /-- The complete segments, last to first. -/
  segments : List (List Char)
  /-- Whether a drive letter has taken the place of the host. -/
  dropsHost : Bool
deriving DecidableEq

/-- Whether a dropped character stands right behind the first colon of a segment. -/
def breaksBehindColon (segment : List Char) : Bool :=
  match segment.dropWhile (· ≠ ':') with
  | _ :: next :: _ => isDropped next
  | _ => false

def writeSegment (segment : List Char) : List Char := percentEncode inPathSet (settled segment)

/-- A path with one more segment, which names something. In front of the path of a file a drive
letter takes the place of the host, and one with a colon and a dropped character behind it is a
segment of its own. -/
def PathDraft.push (draft : PathDraft) (kind : SchemeKind) (segment : List Char) : PathDraft :=
  let written := writeSegment segment
  let more := { draft with segments := written :: draft.segments }
  if kind = .file ∧ draft.segments.isEmpty then
    match written with
    | letter :: mark :: rest =>
      if !isDriveLetter [letter, mark] then more
      else if rest.isEmpty then ⟨[[letter, ':']], true⟩
      else if mark = ':' ∧ breaksBehindColon segment then
        { draft with segments := [rest, [letter, mark]] }
      else more
    | _ => more
  else more

/-- A path with its segments read in order; a dot segment at the end leaves an empty one. -/
def PathDraft.read (kind : SchemeKind) : PathDraft → List (List Char) → PathDraft
  | draft, [] => draft
  | draft, segment :: others =>
    let written := writeSegment segment
    let stay : List (List Char) → PathDraft := fun segments =>
      if others.isEmpty then { draft with segments := [] :: segments }
      else { draft with segments := segments }
    let next :=
      if isDoubleDot written then stay (shorten draft.segments)
      else if isSingleDot written then stay draft.segments
      else draft.push kind segment
    PathDraft.read kind next others

/-- Segments without the empty ones in front, but at least one. -/
def dropEmpty (segments : List (List Char)) : List (List Char) :=
  match segments.dropWhile List.isEmpty with
  | [] => [[]]
  | kept => kept

/-- The text of a path: each segment behind a slash. -/
def pathText (segments : List (List Char)) : List Char := segments.flatMap ('/' :: ·)

/-- Reads the segments behind the first slash of a path, and says whether the host is dropped. -/
def readPath (kind : SchemeKind) (text : List Char) : List Char × Bool :=
  let draft := PathDraft.read kind ⟨[], false⟩ (Text.splitAtEach kind.isSlash text)
  let ordered := draft.segments.reverse
  (pathText (if kind = .file then dropEmpty ordered else ordered), draft.dropsHost)

/-- A text without a slash in front. -/
def skipSlash (kind : SchemeKind) (text : List Char) : List Char :=
  match text with
  | [] => []
  | first :: rest => if kind.isSlash first then rest else text

end Url

end ContentPolicy
