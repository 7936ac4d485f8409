import DashboardTools.Credential
import DashboardTools.Disk.Operation

/-!
# The credential file

A credential is kept in one file that only its owner may read. Reading is lenient: whatever is not
a credential counts as none. Saving writes a file beside it and moves that into place, so that the
file holds the old credential or the new one and never a part; directories that are missing are
made for the owner alone. When something fails on the way, the file beside it is removed again.
-/

namespace DashboardTools.Credential

open DashboardTools.Disk
open DashboardTools.Text

/-- The access bits of a credential file: its owner may read and write it, and nobody else may do
either. -/
def fileMode : Nat := 0o600

/-- The access bits of a directory made for a credential file. -/
def directoryMode : Nat := 0o700

/-- The credential that a file keeps, if it keeps one. -/
def load? (disk : Disk) (path : Path) : Option Credential :=
  match disk.read path with
  | .error _ => none
  | .ok bytes => (Utf8.decode? bytes).bind parse?

/-- The disk without a credential file. Where there is none, or it cannot be removed, the disk stays
as it is. -/
def clear (disk : Disk) (path : Path) : Disk :=
  match disk.remove path with
  | .ok cleared => cleared
  | .error _ => disk

/-- The file that a credential is written to first; `process` keeps programs apart that run at the
same time. -/
def temporaryPath (process : Nat) (path : Path) : Path :=
  let name := (path.fileName?).getD "credentials.json".toList
  path.withFileName (name ++ '.' :: Decimal.natText process ++ ".tmp".toList)

/-- Makes the directory of a path, if there is none. -/
def ensureDirectory (path : Path) : FileProgram (Except Problem Unit) :=
  match path.parent? with
  | none => pure (.ok ())
  | some parent =>
    if parent.isEmpty then pure (.ok ())
    else do
      if ← Program.request (.isThere parent) then pure (.ok ())
      else makeDirectories directoryMode (parent.length + 1) parent

/-- Writes bytes to a new file and moves it to a path. -/
def replace (temporary path : Path) (bytes : List UInt8) : FileProgram (Except Problem Unit) := do
  match ← FileProgram.change (.create temporary fileMode) with
  | .error problem => pure (.error problem)
  | .ok () =>
    match ← appendAll temporary bytes with
    | .error problem => pure (.error problem)
    | .ok () => FileProgram.change (.rename temporary path)

/-- Saves a credential: makes the missing directories, writes a temporary file beside the target,
and puts it in place at the end. -/
def save (process : Nat) (path : Path) (credential : Credential) :
    FileProgram (Except Problem Unit) := do
  match ← ensureDirectory path with
  | .error problem => pure (.error problem)
  | .ok () =>
    let temporary := temporaryPath process path
    match ← replace temporary path (Utf8.encode credential.text.toList) with
    | .error problem => do
      let _ ← FileProgram.change (.remove temporary)
      pure (.error problem)
    | .ok () => FileProgram.change (.setMode path fileMode)

end DashboardTools.Credential
