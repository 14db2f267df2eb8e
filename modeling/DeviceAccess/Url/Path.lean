import DeviceAccess.Text.Cut
import DeviceAccess.Url.Percent

/-!
# Paths

A path is read segment by segment: a segment of one dot vanishes, one of two dots takes the segment
before it away, and any other is kept in its percent spelling. Two dots never take away a drive
letter.
-/

namespace DeviceAccess.Url

open Text

/-- The text with each `%2e` read as a dot. -/
def readDots : List Char → List Char
  | '%' :: '2' :: 'e' :: rest => '.' :: readDots rest
  | '%' :: '2' :: 'E' :: rest => '.' :: readDots rest
  | c :: rest => c :: readDots rest
  | [] => []

/-- A drive letter: an ASCII letter and a colon or a bar. -/
def isDrive (segment : List Char) : Bool :=
  match segment with
  | [letter, mark] => letter.isAlpha && (mark == ':' || mark == '|')
  | _ => false

/-- The segments without the last, unless that is a drive letter. `kept` is last first. -/
def withoutLast (kept : List (List Char)) : List (List Char) :=
  match kept with
  | [] => []
  | segment :: rest => if isDrive segment then kept else rest

/-- A segment as it is written. In a file path the mark of a drive letter becomes a colon. -/
def writtenSegment (isFile : Bool) (segment : List Char) : List Char :=
  match percentEncode escapedInPath segment with
  | [letter, mark] => if isFile && isDrive [letter, mark] then [letter, ':'] else [letter, mark]
  | other => other

/-- Segments, last first, as they are written with a slash behind each. -/
def directory (kept : List (List Char)) : List Char :=
  kept.reverse.flatMap (· ++ ['/'])

/-- Reads the segments of a path behind its first slash; `kept` holds, last first, those that are
already read. -/
def readSegments (isFile : Bool) (kept : List (List Char)) : List (List Char) → List Char
  | [] => directory kept
  -- nothing follows the last segment, so dots there leave the folder with its slash
  | [final] =>
    if readDots final == ['.', '.'] then directory (withoutLast kept)
    else if readDots final == ['.'] then directory kept
    else directory kept ++ writtenSegment isFile final
  | segment :: rest =>
    if readDots segment == ['.', '.'] then readSegments isFile (withoutLast kept) rest
    else if readDots segment == ['.'] then readSegments isFile kept rest
    else readSegments isFile (writtenSegment isFile segment :: kept) rest

/-- The path behind its first slash. With a special scheme a backslash is a slash. -/
def pathBehindRoot (special isFile : Bool) (cs : List Char) : List Char :=
  let slashed := if special then cs.map fun c => if c == '\\' then '/' else c else cs
  readSegments isFile [] (pieces '/' slashed)

/-- Some segment of a file path is a drive letter. -/
def hasDrive (cs : List Char) : Bool :=
  (pieces '/' (cs.map fun c => if c == '\\' then '/' else c)).any isDrive

end DeviceAccess.Url
