import DashboardTools.Command.Run
import DashboardTools.Disk.Edit
import Std.Time.DateTime.Timestamp

/-!
# The command

Runs a command line in the environment of the process, with the credential file of the computer.
The process has no connection to a network or to an assistant of its own, so a login finds the
service unreachable and serving finds nobody connected.
-/

open DashboardTools
open DashboardTools.Configuration
open DashboardTools.Text

/-- The variables that count, as the process has them. A variable that is not set is left out. -/
def processEnvironment : IO Environment := do
  let names := ["HOME", "ASTRALFORM_API_URL", "ASTRALFORM_DOCS_URL", "ASTRALFORM_CONFIG_DIR"]
  names.filterMapM fun name => do
    return (← IO.getEnv name).map fun value => (name, value)

/-- The bytes of a file, if it can be read. -/
def fileBytes? (path : String) : IO (Option (List UInt8)) := do
  try
    return some (← IO.FS.readBinFile path).toList
  catch _ =>
    return none

/-- The world that a command starts in: its credential file and no network. -/
def startingWorld (disk : Disk) (monotonic : Nat) (wall : Int) : World where
  disk := disk
  wall := wall
  monotonic := monotonic
  outcomes := fun _ => .unreachable
  tried := 0
  seen := []
  printed := []
  slept := 0
  process := 1

/-- Run the command line on its words. The world is read here, the program does the rest, and what
it printed and its exit code are handed back to the system. -/
def main (words : List String) : IO UInt32 := do
  let environment ← processEnvironment
  let environment := match (← fileBytes? ".env").bind Utf8.decode? with
    | some text => EnvFile.load environment (.ofList text)
    | none => environment
  let path := match Command.Line.parse words with
    | .ok line => (line.configuration environment none).credentialPath
    | .error _ => ""
  let kept? ← fileBytes? path
  let disk := match kept? with
    | some bytes => Disk.empty.withFileAndDirectory path.toList bytes
    | none => Disk.empty
  let (ending, world) := (Command.run environment none words).run World.handle
    (startingWorld disk (← IO.monoMsNow) (← Std.Time.Timestamp.now).toMillisecondsSinceUnixEpoch.val)
  for line in world.printed do
    IO.println line
  if kept?.isSome && !world.disk.isThere path.toList then
    IO.FS.removeFile path
  match ending with
  | .shown lines => for line in lines do IO.println line
  | _ => pure ()
  if let some complaint := ending.complaint? then
    IO.eprintln complaint
  return ending.status.toUInt32
