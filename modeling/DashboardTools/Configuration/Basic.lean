import DashboardTools.Configuration.EnvFile
import DashboardTools.Disk.Path

/-!
# Configuration

Where the service and its documentation are found, where the session is kept and for how long a
fetched documentation is good. What the environment does not say has a default.
-/

namespace DashboardTools

open DashboardTools.Text
open DashboardTools.Disk

/-- The settings of a program run; the time to live counts milliseconds. -/
structure Configuration where
  apiAddress : String
  docsAddress : String
  directory : String
  docsTimeToLive : Nat
  deriving DecidableEq

namespace Configuration

/-- Where the service is found unless something else is said. -/
def defaultApiAddress : String := "https://api.astralform.dev"

/-- Where the documentation is found unless something else is said. -/
def defaultDocsAddress : String := "https://astralform.mintlify.app"

/-- How long a fetched documentation is good: five minutes, counted in milliseconds. -/
def defaultDocsTimeToLive : Nat := 300000

/-- The address without slashes at its end, so that a path with a slash in front can be put after
it. -/
def baseAddress (address : String) : String := .ofList (dropEnd (· == '/') address.toList)

/-- The address of the service that paths are appended to. -/
def apiBase (configuration : Configuration) : String := baseAddress configuration.apiAddress

/-- The address of the documentation that paths are appended to. -/
def docsBase (configuration : Configuration) : String := baseAddress configuration.docsAddress

/-- The file that keeps the session, in the directory of the configuration. -/
def credentialPath (configuration : Configuration) : String :=
  .ofList (Path.join configuration.directory.toList "credentials.json".toList)

/-- The home directory: the variable `HOME`, or the account's when that is empty or not set. -/
def home? (environment : Environment) (accountHome? : Option String) : Option String :=
  match environment.value? "HOME" with
  | some home => if home.isEmpty then accountHome? else some home
  | none => accountHome?

/-- The directory that keeps the session unless something else is said. -/
def defaultDirectory (home? : Option String) : String :=
  match home? with
  | some home => .ofList (Path.join home.toList ".astralform".toList)
  | none => ".astralform"

/-- The configuration in which nothing is said. Only its directory depends on where home is. -/
def default (home? : Option String) : Configuration where
  apiAddress := defaultApiAddress
  docsAddress := defaultDocsAddress
  directory := defaultDirectory home?
  docsTimeToLive := defaultDocsTimeToLive

/-- The value of a variable without blanks around it, if anything is left. -/
def setting? (environment : Environment) (name : String) : Option String :=
  match environment.value? name with
  | none => none
  | some value =>
    let trimmed := trim value.toList
    if trimmed.isEmpty then none else some (.ofList trimmed)

/-- The configuration that an environment states. A variable that is missing or blank leaves the
default in force. -/
def ofEnvironment (environment : Environment) (accountHome? : Option String) : Configuration :=
  let base := default (home? environment accountHome?)
  { apiAddress := (setting? environment "ASTRALFORM_API_URL").getD base.apiAddress
    docsAddress := (setting? environment "ASTRALFORM_DOCS_URL").getD base.docsAddress
    directory := (setting? environment "ASTRALFORM_CONFIG_DIR").getD base.directory
    docsTimeToLive := base.docsTimeToLive }

end Configuration

end DashboardTools
