import DashboardTools.Docs.Value
import DashboardTools.Service.Device
import DashboardTools.Tool.Catalogue
import DashboardTools.Tool.Result

/-!
# Calling tools

A tool call first reads the arguments; bad ones, and a name that no tool has, are told to the
caller as a problem of the call itself. Every other outcome is a result with one text.
-/

namespace DashboardTools

open DashboardTools.Api
open DashboardTools.Json
open DashboardTools.Tool

/-- What a tool server works with: the service that its tools call, and the site of the
documentation. -/
structure ToolServer where
  service : Service
  site : Docs.Site

/-- The tool server of a configuration, with the addresses and the file that are configured. -/
def Configuration.toolServer (configuration : Configuration) : ToolServer where
  service := configuration.service
  site := configuration.site

namespace ToolServer

/-- The name under which the server presents itself to a client. -/
def serverName : String := "astralform"

/-- The version that the server presents, which is that of the program. -/
def version : String := "0.1.0"

/-- What an assistant is told about the tools, when a client asks what the server is for. -/
def instructions : String :=
  "Manage Astralform projects, API keys, LLM configuration, MCP servers, platform tools and analytics, and search the Astralform docs. If a tool reports that you are not authenticated, run astralform_device_code and poll astralform_device_token until it succeeds."

end ToolServer

namespace Tool

/-- Why a call has no result: there is no such tool, or its arguments cannot be read. -/
inductive CallProblem where
  | unknownTool
  | badArguments (problem : ArgumentProblem)
  deriving DecidableEq

/-- The number of both problems, which stands for invalid parameters in the protocol. -/
def CallProblem.code : Int := -32602

/-- The words for a problem, with what is wrong with the arguments where it is that. -/
def CallProblem.message : CallProblem → String
  | .unknownTool => "tool not found"
  | .badArguments problem => "failed to deserialize parameters: " ++ problem.message

/-- The arguments of a call: those that the operation itself uses, and its input. -/
structure Given where
  own : Arguments
  input : Arguments

/-- Reads the arguments of a tool, its own parameters before those of its input. -/
def readGiven (tool : Tool) (fields : List (String × Value)) : Except ArgumentProblem Given := do
  let own ← readArguments tool.own fields
  let input ← readArguments tool.input fields
  .ok ⟨own, input⟩

/-- The body that an input makes up: its arguments in the order of their names. -/
def inputBody (input : Arguments) : Value :=
  .object (input.map fun entry => (entry.1, entry.2.toValue))

/-- A text argument that is not empty. An empty one counts as left out. -/
def filledText? (arguments : Arguments) (name : String) : Option String :=
  (arguments.text? name).filter fun text => !text.isEmpty

/-- The options of a call, with its input in place. -/
def callOptions (tool : Tool) (method : String) (use : InputUse) (input : Arguments) :
    RequestOptions :=
  let options := RequestOptions.ofMethod method
  match use with
  | .unused => options
  | .body => options.withBody (inputBody input)
  | .query =>
    tool.input.foldl (fun options parameter =>
      options.withQuery parameter.name (filledText? input parameter.name)) options

/-- A result that is one compact object, with texts as its fields. -/
def compactResult (isError : Bool) (fields : List (String × String)) : Result :=
  ⟨isError, [(Value.object (fields.map fun field => (field.1, .string field.2))).compact]⟩

/-- What is answered after a call, from the reaction of its tool and from what the call came to. -/
def Reaction.apply : Reaction → Except Error Value → Result
  | .passed, outcome => respond outcome
  | .warned text, outcome => respond (outcome.map (withWarning text))
  | .acknowledged message, outcome => acknowledge (outcome.map fun _ => ()) message
  | .passedIfFound message, .error (.api 404 _) => compactResult false [("message", message)]
  | .passedIfFound _, outcome => respond outcome

/-- What is answered after a poll. An expired or denied login is an error with a status; a token is
never shown. -/
def pollResult : Except AuthError PollOutcome → Result
  | .error error => .ofError error.toError
  | .ok (.granted _) =>
    compactResult false [("message", "Successfully authenticated!"), ("status", "success")]
  | .ok .pending =>
    compactResult false [("message", "Waiting for user authorization..."), ("status", "pending")]
  | .ok .expired =>
    compactResult true [("error", "Device code expired. Please start again."), ("status", "expired")]
  | .ok .denied =>
    compactResult true [("error", "User denied authorization."), ("status", "denied")]

/-- Calls the service at an endpoint; identifiers are checked before anything happens. -/
def callEndpoint (tool : Tool) (service : Service) (given : Given) (method : String)
    (endpoint : List Segment) (use : InputUse) : SessionProgram (Except Error Value) :=
  match fillPath given.own endpoint with
  | .error error => pure (.error error)
  | .ok path => service.call path (callOptions tool method use given.input)

/-- The category that an argument names, if it is given. -/
def categoryArgument? (arguments : Arguments) : Option Docs.Category :=
  (arguments.text? "category").bind Docs.Category.ofName?

/-- Carries out a tool's operation; answers with what is kept of the documentation. -/
def perform (tool : Tool) (server : ToolServer) (cached? : Option Docs.Cached) (given : Given) :
    SessionProgram (Result × Option Docs.Cached) :=
  match tool.operation with
  | .startDevice => do
    let outcome ← server.service.startDevice
    pure (respond ((outcome.map DeviceAuthorization.toValue).mapError AuthError.toError), cached?)
  | .pollDevice => do
    let outcome ← server.service.poll ((given.own.text? "device_code").getD "")
    pure (pollResult outcome, cached?)
  | .searchDocs => do
    let (outcome, kept?) ← server.site.search cached? ((given.own.text? "query").getD "")
      (categoryArgument? given.own) ((given.own.find? "limit").bind Argument.count?)
    pure (respond (outcome.map Docs.hitsValue), kept?)
  | .getDoc => do
    let (outcome, kept?) ← server.site.page cached? ((given.own.text? "path").getD "")
    pure (respond (outcome.map Docs.Page.toValue), kept?)
  | .call method endpoint use reaction => do
    let outcome ← tool.callEndpoint server.service given method endpoint use
    pure (reaction.apply outcome, cached?)

end Tool

namespace ToolServer

/-- Calls the tool with a name. A tool that does not exist, or arguments that cannot be read, leave
everything as it is. -/
def call (server : ToolServer) (cached? : Option Docs.Cached) (name : String)
    (fields : List (String × Value)) :
    SessionProgram (Except CallProblem Result × Option Docs.Cached) :=
  match Tool.named? name with
  | none => pure (.error .unknownTool, cached?)
  | some tool =>
    match tool.readGiven fields with
    | .error problem => pure (.error (.badArguments problem), cached?)
    | .ok given => do
      let (result, kept?) ← tool.perform server cached? given
      pure (.ok result, kept?)

end ToolServer

end DashboardTools
