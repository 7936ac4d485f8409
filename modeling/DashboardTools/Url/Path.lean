import DashboardTools.Text.Blank
import DashboardTools.Url.Percent

/-!
# Paths in order

A path is put in order as it is read: a segment of one dot is left out and a segment of two dots
takes back the one before it, unless that one names a drive; dots may be in percent form. After
such a segment at the end the path ends in a slash. Tabs and line breaks do not count, but for one
that parts a drive at the front of a file's path from more text: there the drive is a segment of
its own and the rest is the next one, whatever it holds.
-/

namespace DashboardTools.Url

open DashboardTools.Text

/-- Whether a character is a tab or a line break. -/
def isBreak (c : Char) : Bool := c == '\t' || c == '\n' || c == '\r'

/-- The text that counts. Tabs and line breaks may stand anywhere in an address and are dropped. -/
def plain (text : List Char) : List Char := text.filter fun c => !isBreak c

/-- The spellings of a dot in a segment of dots. -/
def takeDot? : List Char → Option (List Char)
  | '.' :: rest => some rest
  | '%' :: '2' :: 'e' :: rest => some rest
  | '%' :: '2' :: 'E' :: rest => some rest
  | _ => none

/-- Whether a segment is one dot, in any of its spellings. -/
def isDot (segment : List Char) : Bool := takeDot? segment == some []

/-- Whether a segment is two dots, each in any of its spellings. -/
def isTwoDots (segment : List Char) : Bool :=
  match takeDot? segment with
  | some rest => isDot rest
  | none => false

/-- Whether a segment names a drive: a letter with a colon or a bar. -/
def isDrive : List Char → Bool
  | [letter, mark] => letter.isAlpha && (mark == ':' || mark == '|')
  | _ => false

/-- The segments, the last one first, without the last; a drive is never taken back. -/
def takeBack : List (List Char) → List (List Char)
  | [] => []
  | last :: before => if isDrive last then last :: before else before

/-- Whether a segment starts with a drive that a break parts from more text. -/
def isPartedDrive (segment : List Char) : Bool :=
  match segment.dropWhile isBreak with
  | [] => false
  | letter :: more =>
    match more.dropWhile isBreak with
    | ':' :: c :: rest => letter.isAlpha && isBreak c && !(plain rest).isEmpty
    | _ => false

/-- A path as far as it is read, in the order that makes adding and removing segments easy. -/
structure OrderedPath where
  /-- The segments, the last one first. -/
  segments : List (List Char)
  /-- Whether a drive took the front of the path of a file. -/
  hasDrive : Bool

/-- The path after one more segment, which may be the last. -/
def OrderedPath.add (file : Bool) (path : OrderedPath) (segment : List Char) (isLast : Bool) :
    OrderedPath :=
  let text := plain segment
  let slash : List (List Char) := if isLast then [[]] else []
  if isTwoDots text then { path with segments := slash ++ takeBack path.segments }
  else if isDot text then { path with segments := slash ++ path.segments }
  else if file && path.segments.isEmpty && isPartedDrive segment then
    { path with segments := [percentEncode pathSet (text.drop 2), text.take 2] }
  else if file && path.segments.isEmpty && isDrive text then
    ⟨[text.take 1 ++ [':']], true⟩
  else { path with segments := percentEncode pathSet text :: path.segments }

/-- The path after more segments, the very last of which closes it. -/
def OrderedPath.addAll (file : Bool) (path : OrderedPath) : List (List Char) → OrderedPath
  | [] => path
  | segment :: rest => (path.add file segment rest.isEmpty).addAll file rest

/-- The path that follows a separator, read segment by segment. -/
def OrderedPath.read (file : Bool) (isSeparator : Char → Bool) (text : List Char) : OrderedPath :=
  addAll file ⟨[], false⟩ (fields isSeparator text)

/-- The segments of a path that follows a separator, in the order in which they are written. -/
def readSegments (isSeparator : Char → Bool) (text : List Char) : List (List Char) :=
  (OrderedPath.read false isSeparator text).segments.reverse

end DashboardTools.Url
