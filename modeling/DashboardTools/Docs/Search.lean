import DashboardTools.Docs.Section

/-!
# Keyword search

A query's words are counted in each section's title and content. Sections with a positive score
are answered from the highest score down, equal scores in document order, each with an excerpt
around the first occurrence of the query's first word.
-/

namespace DashboardTools.Docs

open DashboardTools.Text

/-- One hit of a search: what names its section, an excerpt of the content, and a score. -/
structure Hit where
  title : String
  path : String
  excerpt : String
  category : Category
  relevance : Nat
  deriving DecidableEq

/-- The lowercase words of a query, in order. A word that stands there twice is counted twice. -/
def queryTerms (query : String) : List (List Char) := words (lowercase query.toList)

/-- What a term adds to the score of a section in whose title it occurs. -/
def titleBoost : Nat := 5

/-- How often a term occurs in a section, with a boost if it occurs in the title. -/
def termScore (entry : Section) (term : List Char) : Nat :=
  countOccurrences term (lowercase (entry.title.toList ++ ' ' :: entry.content.toList)) +
    if occursIn term (lowercase entry.title.toList) then titleBoost else 0

/-- The scores of the terms, taken together. A section in which no term occurs has none. -/
def score (entry : Section) (terms : List (List Char)) : Nat :=
  terms.foldr (fun term rest => termScore entry term + rest) 0

/-- How many characters an excerpt shows before the start of its match, and from there on. -/
def excerptBefore : Nat := 50

/-- How many characters an excerpt shows from the start of its match on. -/
def excerptAfter : Nat := 150

/-- How many characters of a content without a match are shown. -/
def excerptFallback : Nat := 200

/-- What marks an excerpt that leaves text out, on each side where it does. -/
def ellipsis : List Char := ['.', '.', '.']

/-- The excerpt of a content around the first occurrence of a term, letter case aside. -/
def excerpt (content term : List Char) : List Char :=
  let needle := lowercase term
  let position? := if needle.isEmpty then none
    else firstOccurrence? needle (content.map lowercaseFirst)
  match position? with
  | none => trim (content.take excerptFallback) ++ ellipsis
  | some position =>
    let start := position - excerptBefore
    let stop := min (position + excerptAfter) content.length
    (if 0 < start then ellipsis else []) ++ trim ((content.drop start).take (stop - start)) ++
      (if stop < content.length then ellipsis else [])

/-- The hit that a section makes for a search, if its score is positive. -/
def Section.hit? (terms : List (List Char)) (firstTerm : List Char) (entry : Section) :
    Option Hit :=
  let relevance := score entry terms
  if 0 < relevance then
    some {
      title := entry.title
      path := entry.path
      excerpt := .ofList (excerpt entry.content.toList firstTerm)
      category := entry.category
      relevance := relevance }
  else none

/-- How many hits are answered when a search names no number. -/
def defaultLimit : Nat := 5

/-- The best hits of a query among the sections of a category, at most `limit` many. -/
def search (sections : List Section) (query : String) (category? : Option Category)
    (limit : Nat) : List Hit :=
  match queryTerms query with
  | [] => []
  | firstTerm :: otherTerms =>
    let searched := sections.filter fun entry => category?.all (· == entry.category)
    let hits := searched.filterMap (Section.hit? (firstTerm :: otherTerms) firstTerm)
    (hits.mergeSort fun a b => decide (b.relevance ≤ a.relevance)).take limit

end DashboardTools.Docs
