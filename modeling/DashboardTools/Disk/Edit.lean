import DashboardTools.Disk.Operation

/-!
# Editing a disk from outside

What other programs do to a disk: they write whole files, make directories with those above them,
and put a file in the place of a directory. What lies below the working directory can be listed.
-/

namespace DashboardTools.Disk

/-- The access bits of a file that nobody chose: everybody may read it, and its owner may write
it. -/
def commonFileMode : Nat := 0o644

/-- The disk with a directory at a path and directories on the way to it. -/
def withDirectory (disk : Disk) (path : Path) : Disk :=
  ((makeDirectories commonMode (path.length + 1) path).run handle disk).2

/-- The disk with a file at a path, if one can be written there. -/
def withFile (disk : Disk) (path : Path) (bytes : List UInt8) : Disk :=
  match (disk.create path commonFileMode).bind fun created => created.append path bytes with
  | .ok written => written
  | .error _ => disk

/-- The disk with a file at a path and directories on the way to it: the disk of a world that begins
with a file, or in which somebody puts one where its directory may be missing. -/
def withFileAndDirectory (disk : Disk) (path : Path) (bytes : List UInt8) : Disk :=
  match path.parent? with
  | none => disk.withFile path bytes
  | some parent => (if parent.isEmpty then disk else disk.withDirectory parent).withFile path bytes

/-- The disk with an empty file in the place of a directory and all that lies below it. -/
def withFileForDirectory (disk : Disk) (path : Path) : Disk :=
  match disk.find path with
  | .ok (location, .directory _) =>
    let others := disk.nodes.filter fun entry => !location.isSuffixOf entry.1
    { disk with nodes := (location, .file commonFileMode []) :: others }
  | _ => disk.withFile path []

/-- The names from the working directory to a location below it. -/
def below? (disk : Disk) (location : Location) : Option (List (List Char)) :=
  if disk.start.isSuffixOf location && disk.start.length < location.length then
    some ((location.take (location.length - disk.start.length)).reverse)
  else none

/-- Whether a name comes before another one, character by character in the order of code points. -/
def nameBefore (a b : List Char) : Bool := a.lex b fun c d => decide (c.toNat < d.toNat)

/-- What lies below the working directory, sorted by the names on the way. -/
def listing (disk : Disk) : List (List (List Char) × Node) :=
  let entries := disk.nodes.filterMap fun entry =>
    (disk.below? entry.1).map fun names => (names, entry.2)
  entries.mergeSort fun a b => !b.1.lex a.1 nameBefore

end DashboardTools.Disk
