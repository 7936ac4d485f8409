import DashboardTools.Docs.Client

/-!
# Documentation as JSON

Hits and pages are written with their fields in the order of their types.
-/

namespace DashboardTools.Docs

open DashboardTools.Json

/-- A hit as a value, with its fields in the order in which they are answered. -/
def Hit.toValue (hit : Hit) : Value :=
  .object [("title", .string hit.title), ("path", .string hit.path),
    ("excerpt", .string hit.excerpt), ("category", .string hit.category.name),
    ("relevance", .int hit.relevance)]

/-- A page as a value, with its fields in the order in which they are answered. -/
def Page.toValue (page : Page) : Value :=
  .object [("path", .string page.path), ("title", .string page.title),
    ("content", .string page.content), ("category", .string page.category.name)]

/-- Hits as a value, in the order of their rank. -/
def hitsValue (hits : List Hit) : Value := .array (hits.map Hit.toValue)

end DashboardTools.Docs
