import DashboardTools.Text.Blank
import DashboardTools.Text.Lowercase

/-!
# Slugs

A slug is the part of a section's path that names its title: the lowercase letters and digits of
ASCII, with one hyphen for whatever stands between two runs of them.
-/

namespace DashboardTools.Docs

open DashboardTools.Text

/-- The characters that a slug keeps: `a` to `z` and `0` to `9`. -/
def slugKeeps (c : Char) : Bool := c.isLower || c.isDigit

/-- Writes one hyphen for each run of characters that a slug does not keep; `hyphenated` says
that the text written so far ends in a hyphen. -/
def hyphenate : (hyphenated : Bool) → List Char → List Char
  | _, [] => []
  | hyphenated, c :: rest =>
    if slugKeeps c then c :: hyphenate false rest
    else if hyphenated then hyphenate true rest
    else '-' :: hyphenate true rest

/-- The slug of a title: its runs of small letters and digits, once it is lowercased, with single
hyphens between them. -/
def slugify (title : String) : String :=
  .ofList (trimBy (· == '-') (hyphenate false (lowercase title.toList)))

end DashboardTools.Docs
