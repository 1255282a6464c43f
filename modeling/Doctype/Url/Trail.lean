import Doctype.Url.Percent
import Doctype.Url.Unbroken

/-! Following the segments of a written path. A drive letter is a segment that `..` does not
leave. -/
namespace Doctype.Url

/-- Two dots, each of which may be percent-encoded. -/
def isParentSegment (segment : List Char) : Bool :=
  ["..", ".%2e", "%2e.", "%2e%2e"].contains (.ofList (segment.map Char.toLower))

/-- One dot, which may be percent-encoded. -/
def isSelfSegment (segment : List Char) : Bool :=
  [".", "%2e"].contains (.ofList (segment.map Char.toLower))

/-- A letter with `:` or `|` behind it. -/
def isDrive : List Char → Bool
  | [letter, mark] => letter.isAlpha && (mark == ':' || mark == '|')
  | _ => false

/-- A drive letter with a colon. -/
def isColonDrive (segment : String) : Bool :=
  isDrive segment.toList && segment.toList.getLast? == some ':'

/-- A segment that two dots do not leave: a drive letter, alone or before a backslash. -/
def isAnchor (segment : String) : Bool :=
  isDrive (segment.toList.take 2) && segment.toList[2]?.all (· == '\\')

/-- A path under way: the segments that a slash has closed, and the text of the open one. -/
structure Trail where
  closed : List String := []
  last : String := ""
  /-- Whether the path begins with a drive letter that has been read. -/
  drive : Bool := false

namespace Trail

/-- All segments. -/
def segments (t : Trail) : List String :=
  t.closed ++ [t.last]

/-- Closes the open segment. -/
def close (t : Trail) : Trail :=
  { t with closed := t.segments, last := "" }

/-- Closes the open segment where a slash follows. -/
def closeIf (ends : Bool) (t : Trail) : Trail :=
  if ends then t.close else t

/-- Whether nothing but the first slash has been read. -/
def isTop (t : Trail) : Bool :=
  t.closed.isEmpty && t.last == ""

/-- Opens the segment before an empty one again. -/
def reopen (t : Trail) : Trail :=
  match t.closed.getLast? with
  | some segment =>
    if t.last == "" && !isAnchor segment then
      { t with closed := t.closed.dropLast, last := segment }
    else t
  | none => t

/-- Leaves the open segment; a file path does not leave a drive letter. -/
def leave (file : Bool) (t : Trail) : Trail :=
  if file && isColonDrive t.last then t else { t with last := "" }

/-- A drive letter and the text behind it, where a break stands between them. -/
def parted? (raw : List Char) : Option (String × List Char) := do
  let (letter, rest) ← next? raw
  let (mark, rest) ← next? rest
  if letter.isAlpha && mark == ':' && rest.head?.any isBreak && !(unbroken rest).isEmpty then
    some (.ofList [letter, mark], unbroken rest)
  else none

/-- Reads a segment that is not made of dots. At the top of a file path a drive letter gets a
colon, and one that a break follows becomes a segment of its own. -/
def write (file : Bool) (t : Trail) (raw : List Char) : Trail :=
  let plain : Trail := { t with last := t.last ++ encode inPath (unbroken raw) }
  if file && t.isTop then
    match parted? raw, unbroken raw with
    | some (drive, text), _ => { t with closed := [drive], last := encode inPath text }
    | none, segment =>
      if isDrive segment then { t with last := .ofList (segment.take 1 ++ [':']), drive := true }
      else plain
  else plain

/-- Reads a written segment; `ends` tells whether a slash follows. -/
def step (file ends : Bool) (t : Trail) (raw : List Char) : Trail :=
  let segment := unbroken raw
  let t := t.closeIf (file && t.closed.isEmpty && isColonDrive t.last && !segment.isEmpty)
  if isParentSegment segment then
    let t := t.reopen.leave file
    t.closeIf (ends && t.last != "")
  else if isSelfSegment segment then t.closeIf (t.last != "")
  else (t.write file raw).closeIf ends

/-- Reads written segments, of which the last one stays open. -/
def follow (file : Bool) (t : Trail) : List (List Char) → Trail
  | [] => t
  | raw :: rest => follow file (t.step file (!rest.isEmpty) raw) rest

/-- A trail that goes on behind the last slash of a path. A file path goes on behind a drive
letter even where no slash follows it. -/
def behind (file : Bool) (segments : List String) : Trail :=
  Trail.leave file { closed := segments.dropLast, last := segments.getLast?.getD "" }

end Trail

end Doctype.Url
