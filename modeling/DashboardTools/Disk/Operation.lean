import DashboardTools.Disk.Basic
import DashboardTools.Program

/-!
# File operations

Each operation follows its path on the disk and then does one thing or nothing: a failed operation
leaves the disk as it was. Programs ask for the operations one at a time.
-/

namespace DashboardTools.Disk

open DashboardTools.Text

/-- Makes a directory with these access bits. Its place must be free and must lie in a directory. -/
def makeDirectory (disk : Disk) (path : Path) (mode : Nat) : Except Problem Disk :=
  match disk.follow path with
  | .error problem => .error problem
  | .ok (.unnamed _) => .error .exists
  | .ok (.name directory name _) =>
    match disk.child? directory name with
    | .error problem => .error problem
    | .ok (some _) => .error .exists
    | .ok none => .ok (disk.put (name :: directory) (.directory mode))

/-- Opens a file for writing from its start; a new file gets these access bits, an old one keeps
its own and loses its bytes. -/
def create (disk : Disk) (path : Path) (mode : Nat) : Except Problem Disk :=
  match disk.follow path with
  | .error problem => .error problem
  | .ok (.unnamed _) => .error .isDirectory
  | .ok (.name directory name slash) =>
    if slash then .error .isDirectory
    else
      match disk.child? directory name with
      | .error problem => .error problem
      | .ok none => .ok (disk.put (name :: directory) (.file mode []))
      | .ok (some (.directory _)) => .error .isDirectory
      | .ok (some (.file oldMode _)) => .ok (disk.put (name :: directory) (.file oldMode []))

/-- Writes bytes at the end of a file that is there. The bits of the file stay as they are. -/
def append (disk : Disk) (path : Path) (bytes : List UInt8) : Except Problem Disk :=
  match disk.find path with
  | .error problem => .error problem
  | .ok (_, .directory _) => .error .isDirectory
  | .ok (location, .file mode old) => .ok (disk.put location (.file mode (old ++ bytes)))

/-- Moves a file to another path, in place of a file that is there. -/
def rename (disk : Disk) (source target : Path) : Except Problem Disk :=
  match disk.follow source, disk.follow target with
  | .error problem, _ => .error problem
  | _, .error problem => .error problem
  | .ok (.unnamed _), _ => .error .busy
  | _, .ok (.unnamed _) => .error .busy
  | .ok (.name sourceDirectory sourceName _), .ok (.name directory name slash) =>
    match disk.child? sourceDirectory sourceName, disk.child? directory name with
    | .error problem, _ => .error problem
    | .ok none, _ => .error .notFound
    | _, .error problem => .error problem
    | .ok (some (.directory _)), _ => .error .isDirectory
    | .ok (some (.file mode bytes)), .ok there =>
      if slash then .error .notDirectory
      else
        match there with
        | some (.directory _) => .error .isDirectory
        | _ =>
          .ok ((disk.erase (sourceName :: sourceDirectory)).put (name :: directory)
            (.file mode bytes))

/-- Removes a file. A directory is never removed this way, and a slash after the name asks for
one. -/
def remove (disk : Disk) (path : Path) : Except Problem Disk :=
  match disk.follow path with
  | .error problem => .error problem
  | .ok (.unnamed _) => .error .isDirectory
  | .ok (.name directory name slash) =>
    match disk.child? directory name with
    | .error problem => .error problem
    | .ok none => .error .notFound
    | .ok (some (.directory _)) => .error .isDirectory
    | .ok (some (.file _ _)) =>
      if slash then .error .notDirectory else .ok (disk.erase (name :: directory))

/-- Gives a file or directory other access bits. What it holds stays as it is. -/
def setMode (disk : Disk) (path : Path) (mode : Nat) : Except Problem Disk :=
  match disk.find path with
  | .error problem => .error problem
  | .ok (location, .directory _) => .ok (disk.put location (.directory mode))
  | .ok (location, .file _ bytes) => .ok (disk.put location (.file mode bytes))

/-- The bytes of a file, whatever its access bits. A directory has none. -/
def read (disk : Disk) (path : Path) : Except Problem (List UInt8) :=
  match disk.find path with
  | .error problem => .error problem
  | .ok (_, .directory _) => .error .isDirectory
  | .ok (_, .file _ bytes) => .ok bytes

/-- Whether a path leads to anything, a file or a directory. -/
def isThere (disk : Disk) (path : Path) : Bool := (disk.find path).isOk

/-- Whether a path leads to a directory. Where following it fails, the answer is no. -/
def isDirectory (disk : Disk) (path : Path) : Bool :=
  match disk.find path with
  | .ok (_, .directory _) => true
  | _ => false

/-- The operations that change a disk. Each of them does all of its work or none. -/
inductive Change where
  | makeDirectory (path : Path) (mode : Nat)
  | create (path : Path) (mode : Nat)
  | append (path : Path) (bytes : List UInt8)
  | rename (source target : Path)
  | remove (path : Path)
  | setMode (path : Path) (mode : Nat)

/-- The disk after an operation, or why the operation fails. -/
def apply (disk : Disk) : Change → Except Problem Disk
  | .makeDirectory path mode => disk.makeDirectory path mode
  | .create path mode => disk.create path mode
  | .append path bytes => disk.append path bytes
  | .rename source target => disk.rename source target
  | .remove path => disk.remove path
  | .setMode path mode => disk.setMode path mode

/-- What a program can ask of a disk: two questions about a path, and one change at a time. -/
inductive Operation : Type → Type where
  | isThere (path : Path) : Operation Bool
  | isDirectory (path : Path) : Operation Bool
  | change (change : Change) : Operation (Except Problem Unit)

/-- Answers a program's operation. A change that fails leaves the disk as it was. -/
def handle : Handler Operation Disk
  | _, .isThere path, disk => (disk.isThere path, disk)
  | _, .isDirectory path, disk => (disk.isDirectory path, disk)
  | _, .change change, disk =>
    match disk.apply change with
    | .ok changed => (.ok (), changed)
    | .error problem => (.error problem, disk)

/-- A program of file operations, which touches a disk through these operations alone. -/
abbrev FileProgram := Program Operation

/-- Asks for one change and is done with the answer, which may be a problem. -/
def FileProgram.change (change : Change) : FileProgram (Except Problem Unit) :=
  Program.request (.change change)

/-- Makes a directory and the directories above it that are missing. `levels` bounds how far up
it looks. -/
def makeDirectories (mode : Nat) : (levels : Nat) → Path → FileProgram (Except Problem Unit)
  | 0, _ => pure (.ok ())
  | levels + 1, path =>
    if path.isEmpty then pure (.ok ())
    else do
      match ← FileProgram.change (.makeDirectory path mode) with
      | .ok () => pure (.ok ())
      | .error .notFound =>
        match path.parent? with
        | none => pure (.error .notFound)
        | some parent =>
          match ← makeDirectories mode levels parent with
          | .error problem => pure (.error problem)
          | .ok () =>
            match ← FileProgram.change (.makeDirectory path mode) with
            | .ok () => pure (.ok ())
            | .error problem =>
              if ← Program.request (.isDirectory path) then pure (.ok ())
              else pure (.error problem)
      | .error problem =>
        if ← Program.request (.isDirectory path) then pure (.ok ()) else pure (.error problem)

/-- Writes bytes at the end of a file, one at a time. -/
def appendAll (path : Path) : List UInt8 → FileProgram (Except Problem Unit)
  | [] => pure (.ok ())
  | byte :: rest => do
    match ← FileProgram.change (.append path [byte]) with
    | .ok () => appendAll path rest
    | .error problem => pure (.error problem)

end DashboardTools.Disk
