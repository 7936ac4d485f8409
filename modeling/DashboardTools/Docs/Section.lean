import DashboardTools.Docs.Category
import DashboardTools.Docs.Slug
import DashboardTools.Text.Lines

/-!
# Documentation sections

The documentation is one text. A header line opens a section that holds the lines up to the next
header; the lines before the first header belong to none. A header is one or two number signs, a
blank, and at least one more character.
-/

namespace DashboardTools.Docs

open DashboardTools.Text

/-- One top-level section of the documentation. Its path is made of its category and its title. -/
structure Section where
  path : String
  title : String
  content : String
  category : Category
  deriving DecidableEq

/-- The title of a header line, `none` for a line that is no header. -/
def headerTitle? (line : List Char) : Option (List Char) :=
  let marks := line.takeWhile (· == '#')
  let after := line.dropWhile (· == '#')
  let gap := after.takeWhile isBlank
  let body := after.dropWhile isBlank
  if marks.isEmpty || decide (2 < marks.length) || gap.isEmpty then none
  else if !body.isEmpty then some (trimEnd body)
  else if 2 ≤ gap.length then some []
  else none

/-- The section that a header with this title opens, with the given content. -/
def Section.ofHeader (title : List Char) (content : List Char) : Section :=
  let title := String.ofList title
  let category := Category.infer title
  { path := "/" ++ category.name ++ "/" ++ slugify title
    title := title
    content := .ofList content
    category := category }

/-- Splits lines into the content before the first header and the sections after it. -/
def splitSections : List (List Char) → List Char × List Section
  | [] => ([], [])
  | line :: rest =>
    let (content, sections) := splitSections rest
    match headerTitle? line with
    | some title => ([], Section.ofHeader title content :: sections)
    | none => (line ++ '\n' :: content, sections)

/-- The sections of a documentation text, in order. What stands before the first header belongs to
none. -/
def parseSections (raw : String) : List Section := (splitSections (lines raw.toList)).2

/-- The path as sections write theirs, with a leading slash. -/
def rootedPath (path : String) : String :=
  match path.toList with
  | '/' :: _ => path
  | _ => "/" ++ path

/-- What follows the last slash, which is all of a path without one. -/
def lastSegment (path : String) : List Char :=
  (path.toList.reverse.takeWhile (· != '/')).reverse

/-- The section with exactly this path, and otherwise the first whose path contains the last
segment of the given one, if that is not empty. -/
def findSection? (sections : List Section) (path : String) : Option Section :=
  let rooted := rootedPath path
  match sections.find? (·.path == rooted) with
  | some found => some found
  | none =>
    let slug := lastSegment rooted
    if slug.isEmpty then none else sections.find? fun s => occursIn slug s.path.toList

end DashboardTools.Docs
