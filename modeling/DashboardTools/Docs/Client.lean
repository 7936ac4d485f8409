import DashboardTools.Docs.Search
import DashboardTools.Service.Basic

/-!
# The documentation site

The documentation is fetched as one text and kept for a time to live, counted from the moment at
which it was read completely. A failed fetch changes nothing. Searching and looking up a page work
on the text that is kept or just fetched.
-/

namespace DashboardTools.Docs

open DashboardTools.Http
open DashboardTools.Text

/-- A documentation text with the time at which it was fetched. -/
structure Cached where
  text : String
  fetchedAt : Nat
  deriving DecidableEq

/-- Where the documentation is found and for how many milliseconds a fetched text is good. -/
structure Site where
  base : String
  timeToLive : Nat
  deriving DecidableEq

/-- The address of the documentation text. All sections are served as one text. -/
def Site.address (site : Site) : String := site.base ++ "/llms-full.txt"

/-- Whether a text is still good: its age, counted from after it was fetched, is less than the time
to live. -/
def Cached.isFresh (cached : Cached) (timeToLive now : Nat) : Bool :=
  decide (now - cached.fetchedAt < timeToLive)

/-- The plan of a fetch, which asks for no authorization. -/
def Site.plan (site : Site) : Plan where
  method := "GET"
  address := site.address
  query := []
  isJson := false
  token? := none
  body? := none

/-- The text of a reply to a fetch. Only a success has one, and bytes that are no text are replaced
in it. -/
def Site.receive (site : Site) (reply : Reply) : Except Error String :=
  if !reply.isSuccess then
    .error (.api reply.status ("Failed to fetch docs from " ++ site.address))
  else
    match reply.body? with
    | none => .error (.network .unreadable)
    | some bytes => .ok (.ofList (Utf8.decodeLossy bytes))

/-- What an operation on a site answers, with what is kept afterwards. -/
abbrev Kept (α : Type) := Except Error α × Option Cached

/-- Fetches the documentation and keeps it with the time after the fetch. Without a text, what was
kept before stays. -/
def Site.refetch (site : Site) (cached? : Option Cached) : SessionProgram (Kept String) := do
  match ← site.plan.send with
  | .error cause => pure (.error (.network cause), cached?)
  | .ok reply =>
    match site.receive reply with
    | .error error => pure (.error error, cached?)
    | .ok text => do
      let now ← SessionProgram.ask .monotonicClock
      pure (.ok text, some ⟨text, now⟩)

/-- The documentation text: the one that is kept, while it is good, or a new one. -/
def Site.fetch (site : Site) (cached? : Option Cached) : SessionProgram (Kept String) := do
  match cached? with
  | none => site.refetch none
  | some cached => do
    let now ← SessionProgram.ask .monotonicClock
    if cached.isFresh site.timeToLive now then pure (.ok cached.text, cached?)
    else site.refetch cached?

/-- One page of the documentation, as it is looked up: the whole of one section. -/
structure Page where
  path : String
  title : String
  content : String
  category : Category
  deriving DecidableEq

/-- How many hits a search answers that asks for none or names no number. -/
def effectiveLimit (limit? : Option Nat) : Nat :=
  match limit? with
  | some (limit + 1) => limit + 1
  | _ => defaultLimit

/-- The hits in a documentation text. Without a limit the usual number of them is answered. -/
def searchText (raw query : String) (category? : Option Category) (limit? : Option Nat) :
    List Hit :=
  search (parseSections raw) query category? (effectiveLimit limit?)

/-- The page that a path leads to in a documentation text. -/
def pageOfText (raw path : String) : Except Error Page :=
  match findSection? (parseSections raw) path with
  | none => .error (.docNotFound path)
  | some found =>
    .ok ⟨found.path, found.title, .ofList (trim found.content.toList), found.category⟩

/-- Searches the documentation, fetching it first if what is kept is no longer good. -/
def Site.search (site : Site) (cached? : Option Cached) (query : String)
    (category? : Option Category) (limit? : Option Nat) : SessionProgram (Kept (List Hit)) := do
  let (text, kept?) ← site.fetch cached?
  pure (text.map fun raw => searchText raw query category? limit?, kept?)

/-- Looks up a page of the documentation, fetching it first if what is kept is no longer good. -/
def Site.page (site : Site) (cached? : Option Cached) (path : String) :
    SessionProgram (Kept Page) := do
  let (text, kept?) ← site.fetch cached?
  pure (text.bind fun raw => pageOfText raw path, kept?)

end DashboardTools.Docs

namespace DashboardTools

/-- The documentation site of a configuration, with its address free of slashes at the end. -/
def Configuration.site (configuration : Configuration) : Docs.Site where
  base := configuration.docsBase
  timeToLive := configuration.docsTimeToLive

end DashboardTools
