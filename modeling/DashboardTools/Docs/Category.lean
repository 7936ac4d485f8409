import DashboardTools.Text.Occurrence
import DashboardTools.Text.Lowercase

/-!
# Documentation categories

A documentation section belongs to one of five areas. The area is read off the section's title:
the first area one of whose keywords occurs in the lowercased title, and the guides otherwise.
-/

namespace DashboardTools.Docs

open DashboardTools.Text

/-- An area of the documentation. Every section belongs to exactly one, and guides takes in what
fits nowhere else. -/
inductive Category where
  | iosSdk
  | backendApi
  | dashboard
  | mcpConfig
  | guides
  deriving DecidableEq

namespace Category

/-- The areas in the order in which they are listed to a reader. -/
def all : List Category := [iosSdk, backendApi, dashboard, mcpConfig, guides]

/-- The written name of an area, as it stands in paths and in answers. -/
def name : Category → String
  | iosSdk => "ios-sdk"
  | backendApi => "backend-api"
  | dashboard => "dashboard"
  | mcpConfig => "mcp-config"
  | guides => "guides"

/-- The area with this exact name. Names are not trimmed, and their case matters. -/
def ofName? (text : String) : Option Category := all.find? fun category => category.name == text

/-- The keywords of each area, in the order in which they are tried. -/
def keywords : List (Category × List String) :=
  [(iosSdk, ["ios", "sdk", "swift"]), (backendApi, ["api", "endpoint", "stream"]),
   (dashboard, ["dashboard", "project", "key"]), (mcpConfig, ["mcp", "tool"])]

/-- The area of a section with this title: the first one that has a keyword somewhere in the title,
in any case. -/
def infer (title : String) : Category :=
  let lowered := lowercase title.toList
  match keywords.find? fun entry => entry.2.any fun word => occursIn word.toList lowered with
  | some entry => entry.1
  | none => guides

end Category

end DashboardTools.Docs
