import DashboardTools.Service.Call
import DashboardTools.Tool.Parameter

/-!
# Endpoints

An endpoint is a path under the service's address. Some of its segments are fixed and some are
filled with identifiers from the arguments. An identifier is trimmed and may neither be empty nor
hold a character that ends a segment or a path.
-/

namespace DashboardTools.Tool

open DashboardTools.Text

/-- A segment of an endpoint: a word that is always the same, or an identifier that is given with
each call. -/
inductive Segment where
  | fixed (word : String)
  | identifier (name : String)
  deriving DecidableEq

/-- The characters that an identifier may not hold, since each of them would end its segment. -/
def endsSegment (c : Char) : Bool := c == '/' || c == '?' || c == '#'

/-- An identifier as a segment: trimmed, not empty, and with no character that would end a
segment. -/
def checkIdentifier (name value : String) : Except Error String :=
  let trimmed := trim value.toList
  if trimmed.isEmpty then .error (.invalidArgument (name ++ " must not be empty"))
  else if trimmed.any endsSegment then
    .error (.invalidArgument (name ++ " contains invalid characters: " ++ .ofList trimmed))
  else .ok (.ofList trimmed)

/-- A segment with its identifier filled in, or the complaint about that identifier. -/
def Segment.fill (arguments : Arguments) : Segment → Except Error String
  | .fixed word => .ok word
  | .identifier name => checkIdentifier name ((arguments.text? name).getD "")

/-- The path of an endpoint with its identifiers filled in; the first that cannot be is
reported. -/
def fillPath (arguments : Arguments) : List Segment → Except Error String
  | [] => .ok ""
  | segment :: rest => do
    let filled ← segment.fill arguments
    let path ← fillPath arguments rest
    .ok ("/" ++ filled ++ path)

/-- The segments of the dashboard's endpoints before the segments of their own. -/
def dashboard (segments : List Segment) : List Segment :=
  .fixed "v1" :: .fixed "dashboard" :: segments

/-- The segments of a project's endpoints before the segments of their own. -/
def project (segments : List Segment) : List Segment :=
  dashboard (.fixed "projects" :: .identifier "project_id" :: segments)

end DashboardTools.Tool
