import DashboardTools.Command.Auth
import DashboardTools.Tool.Server

/-!
# Sessions

A session is a sequence of steps on one world. All steps share the credential file. There are two
copies of a fetched documentation: one for the user's own searches and one for the tools.
-/

namespace DashboardTools

open DashboardTools.Api
open DashboardTools.Disk
open DashboardTools.Json
open DashboardTools.Text

/-- What a session keeps besides the world: documentation texts, one for the session itself and one
for its tools. -/
structure Caches where
  own? : Option Docs.Cached
  tools? : Option Docs.Cached
  deriving DecidableEq

/-- What a user or an assistant can ask a session to do. -/
inductive Step where
  | loadCredential
  | clearCredential
  | accessToken
  | isAuthenticated
  | apiBase
  | refresh (token : String)
  | call (path : String) (options : RequestOptions)
  | callForNothing (path : String) (options : RequestOptions)
  | startDevice
  | poll (deviceCode : String)
  | fetchDocs
  | searchDocs (query : String) (category? : Option Docs.Category) (limit? : Option Nat)
  | getDoc (path : String)
  | forgetDocs
  | login
  | status
  | logout
  | callTool (name : String) (fields : List (String × Value))

/-- What a step answers, with one kind of answer for each kind of step. -/
inductive Answer where
  | nothing
  | credential (credential? : Option Credential)
  | text (text? : Option String)
  | flag (value : Bool)
  | value (outcome : Except Error Value)
  | authorization (outcome : Except AuthError DeviceAuthorization)
  | polled (outcome : Except AuthError PollOutcome)
  | command (outcome : Except Command.LoginFailure Unit)
  | tool (outcome : Except Tool.CallProblem Tool.Result)

/-- The program of a step. It hands back the answer and the caches, which only steps about the
documentation change. -/
def Step.program (configuration : Configuration) (caches : Caches) :
    Step → SessionProgram (Answer × Caches)
  | loadCredential => do
    let credential? ← SessionProgram.ask (.load configuration.service.credentialFile)
    pure (.credential credential?, caches)
  | clearCredential => do
    SessionProgram.ask (.clear configuration.service.credentialFile)
    pure (.nothing, caches)
  | accessToken => do
    let token? ← configuration.service.accessToken?
    pure (.text token?, caches)
  | isAuthenticated => do
    let token? ← configuration.service.accessToken?
    pure (.flag token?.isSome, caches)
  | apiBase => pure (.text (some configuration.apiBase), caches)
  | refresh token => do
    let credential? ← configuration.service.refresh? token
    pure (.credential credential?, caches)
  | call path options => do
    let outcome ← configuration.service.call path options
    pure (.value outcome, caches)
  | callForNothing path options => do
    let outcome ← configuration.service.callForNothing path options
    pure (.value (outcome.map fun _ => Value.null), caches)
  | startDevice => do
    let outcome ← configuration.service.startDevice
    pure (.authorization outcome, caches)
  | poll deviceCode => do
    let outcome ← configuration.service.poll deviceCode
    pure (.polled outcome, caches)
  | fetchDocs => do
    let (outcome, kept?) ← configuration.site.fetch caches.own?
    pure (.value (outcome.map Value.string), { caches with own? := kept? })
  | searchDocs query category? limit? => do
    let (outcome, kept?) ← configuration.site.search caches.own? query category? limit?
    pure (.value (outcome.map Docs.hitsValue), { caches with own? := kept? })
  | getDoc path => do
    let (outcome, kept?) ← configuration.site.page caches.own? path
    pure (.value (outcome.map Docs.Page.toValue), { caches with own? := kept? })
  | forgetDocs => pure (.nothing, { caches with own? := none })
  | login => do
    let outcome ← Command.runLogin configuration
    pure (.command outcome, caches)
  | status => do
    Command.runStatus configuration
    pure (.command (.ok ()), caches)
  | logout => do
    Command.runLogout configuration
    pure (.command (.ok ()), caches)
  | callTool name fields => do
    let (outcome, kept?) ← configuration.toolServer.call caches.tools? name fields
    pure (.tool outcome, { caches with tools? := kept? })

/-- A session between two steps: what is configured, the world as it stands, and what is kept of the
documentation. -/
structure Session where
  configuration : Configuration
  world : World
  caches : Caches

namespace Session

/-- Takes a step: runs its program in the world and keeps what it leaves. The configuration stays as
it is. -/
def take (session : Session) (step : Step) : Answer × Session :=
  let program := step.program session.configuration session.caches
  let ((answer, caches), world) := program.run World.handle session.world
  (answer, { session with world := world, caches := caches })

/-- The path of the session's credential file, which the configuration settles once and for all. -/
def credentialFile (session : Session) : Path := session.configuration.service.credentialFile

/-- The session after other programs did something to its disk. -/
def withDisk (session : Session) (disk : Disk) : Session :=
  { session with world := { session.world with disk := disk } }

/-- What the credential file holds, if there is one that can be read. -/
def storedText? (session : Session) : Option String :=
  match session.world.disk.read session.credentialFile with
  | .ok bytes => some (.ofList (Utf8.decodeLossy bytes))
  | .error _ => none

end Session

end DashboardTools
