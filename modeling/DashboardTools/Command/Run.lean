import DashboardTools.Command.Auth
import DashboardTools.Command.Line

/-!
# Running a command line

A command line that cannot be read ends the run with status 2, a request for help or the version
with status 0, and a command that fails with status 1 and a line that tells the user what to do. An
address on the command line goes before the one of the environment.
-/

namespace DashboardTools.Command

open DashboardTools.Configuration

/-- The name and version of the program, as it answers when it is asked for its version. -/
def versionLine : String := "astralform-mcp 0.1.0"

/-- How a run ends: with its work done, with lines shown in place of it, refused, or failed. -/
inductive Ending where
  | finished
  | shown (lines : List String)
  | refused
  | failed (failure : LoginFailure)
  deriving DecidableEq

/-- The exit status of a run. A refused command line has a status of its own, and so has a deadline
beyond the clock. -/
def Ending.status : Ending → Nat
  | .finished => 0
  | .shown _ => 0
  | .refused => 2
  | .failed (.error _) => 1
  | .failed .clockOverflow => 101

/-- The line that tells what went wrong, if anything is to be told. A refusal is told about in other
ways. -/
def Ending.complaint? : Ending → Option String
  | .failed (.error error) => some ("Error: " ++ error.help)
  | _ => none

/-- How a run ends whose command line cannot be read. -/
def Stop.ending : Stop → Ending
  | .displayHelp => .shown []
  | .displayVersion => .shown [versionLine]
  | _ => .refused

/-- The failure of serving when nobody is there to be served. -/
def nobodyConnected : LoginFailure :=
  .error (.configuration "failed to start MCP server: connection closed: initialized request")

/-- The configuration of a command line in an environment. An address on the line goes before one in
the environment. -/
def Line.configuration (line : Line) (environment : Environment) (accountHome? : Option String) :
    Configuration :=
  let configuration := Configuration.ofEnvironment environment accountHome?
  match line.apiAddress? with
  | some address => { configuration with apiAddress := address }
  | none => configuration

/-- The program of an action. Serving without anybody connected ends at once in a failure. -/
def Action.program (configuration : Configuration) : Action → SessionProgram Ending
  | .serve => pure (.failed nobodyConnected)
  | .login => do
    match ← runLogin configuration with
    | .ok () => pure .finished
    | .error failure => pure (.failed failure)
  | .status => do
    runStatus configuration
    pure .finished
  | .logout => do
    runLogout configuration
    pure .finished

/-- The program of a command line: the action that it names, or the end that reading it comes to. -/
def run (environment : Environment) (accountHome? : Option String) (words : List String) :
    SessionProgram Ending :=
  match Line.parse words with
  | .error stop => pure stop.ending
  | .ok line => line.action.program (line.configuration environment accountHome?)

end DashboardTools.Command
