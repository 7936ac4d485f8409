import DashboardTools.Configuration.Basic
import DashboardTools.World

/-!
# The service as a session meets it

A session knows the address that all paths of the service are appended to and the file that keeps
its credential. Requests are built first and sent then, and both can fail.
-/

namespace DashboardTools

open DashboardTools.Http

/-- The address that paths are appended to and the file of the session. -/
structure Service where
  base : String
  credentialFile : Disk.Path

/-- The service of a configuration, with its address and the file that keeps the session. -/
def Configuration.service (configuration : Configuration) : Service where
  base := configuration.apiBase
  credentialFile := configuration.credentialPath.toList

/-- Asks for one effect and is done with what is answered. -/
def SessionProgram.ask {α : Type} (effect : Effect α) : SessionProgram α := Program.request effect

/-- Builds a request, sends it and waits for the reply. -/
def Http.Plan.send (plan : Plan) : SessionProgram (Except NetworkError Reply) :=
  match plan.build with
  | .error cause => pure (.error cause)
  | .ok request => do
    match ← SessionProgram.ask (.exchange request) with
    | some reply => pure (.ok reply)
    | none => pure (.error (.unanswered (.ofList request.url.text)))

/-- The plan of a request that asks for authorization: a JSON body and no token. -/
def Service.authPlan (service : Service) (path : String) (body : Json.Value) : Plan where
  method := "POST"
  address := service.base ++ path
  query := []
  isJson := true
  token? := none
  body? := some body

end DashboardTools
