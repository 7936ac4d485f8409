import DashboardTools.Text.Blank

/-!
# Paths

A path is a text of segments with slashes between them. Some segments say nothing: empty ones, and
single dots other than a first one. The file name of a path is its last telling segment, and the
parent is the text before that segment. These readings do not look at any disk.
-/

namespace DashboardTools.Disk

open DashboardTools.Text

/-- A path as it is written. It need not lead anywhere, and the same place can be written in several
ways. -/
abbrev Path := List Char

namespace Path

/-- The segments of a path, empty ones included, so that the path can be put together again. -/
def segments (path : Path) : List (List Char) := fields (· == '/') path

/-- Whether a path starts at the root. Any other path starts in the directory that the program works
in. -/
def isRooted (path : Path) : Bool := path.head? == some '/'

/-- The path with these segments, one slash between each two of them. -/
def ofSegments (segments : List (List Char)) : Path := ['/'].intercalate segments

/-- Whether a segment at the given index tells something; the empty segment before a leading slash
stands for the root and does. -/
def tells (path : Path) (index : Nat) (segment : List Char) : Bool :=
  if index = 0 then isRooted path || !segment.isEmpty
  else !segment.isEmpty && segment != ['.']

/-- The segments without those at the end that tell nothing. -/
def tellingSegments (path : Path) : List (List Char × Nat) :=
  (path.segments.zipIdx.reverse.dropWhile fun entry => !path.tells entry.2 entry.1).reverse

/-- The text before the last telling segment; a path that is empty or the root has none. -/
def parent? (path : Path) : Option Path :=
  match path.tellingSegments.reverse with
  | [] => none
  | last :: before =>
    if last.2 = 0 ∧ path.isRooted then none
    else
      let kept := (before.dropWhile fun entry => !path.tells entry.2 entry.1).reverse
      match kept.map (·.1) with
      | [[]] => some ['/']
      | segments => some (ofSegments segments)

/-- The last telling segment, unless it is a dot or two dots or the root. -/
def fileName? (path : Path) : Option (List Char) :=
  match path.tellingSegments.getLast? with
  | none => none
  | some (name, index) =>
    if index = 0 ∧ path.isRooted then none
    else if name = ['.'] ∨ name = ['.', '.'] then none
    else some name

/-- The path with more segments after it; a rooted path stands for itself. -/
def join (path more : Path) : Path :=
  if more.isRooted then more
  else if path.isEmpty || path.getLast? == some '/' then path ++ more
  else path ++ '/' :: more

/-- The path with another file name; where there was none, the name is added. -/
def withFileName (path : Path) (name : List Char) : Path :=
  match path.fileName? with
  | some _ => join (path.parent?.getD []) name
  | none => join path name

end Path

end DashboardTools.Disk
