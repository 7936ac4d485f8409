import DashboardTools.Disk.Path
import DashboardTools.Text.Utf8

/-!
# Disks

A disk holds files and directories, each at a location. A path is followed from a working
directory, name by name: every name but the last has to be a directory, a dot stays, two dots go
up, and a slash at the end asks for a directory. There are no links.
-/

namespace DashboardTools.Disk

open DashboardTools.Text

/-- The names on the way from the root, the last one first. The root is the empty location. -/
abbrev Location := List (List Char)

/-- What is kept at a location, with its access bits. -/
inductive Node where
  | file (mode : Nat) (bytes : List UInt8)
  | directory (mode : Nat)
  deriving DecidableEq

/-- Why a file operation fails. These are the reasons that the operations here can meet. -/
inductive Problem where
  | notFound
  | busy
  | exists
  | notDirectory
  | isDirectory
  | nameTooLong
  | zeroInName
  deriving DecidableEq

/-- The words and number that a system gives for a problem. -/
def Problem.message : Problem → String
  | .notFound => "No such file or directory (os error 2)"
  | .busy => "Device or resource busy (os error 16)"
  | .exists => "File exists (os error 17)"
  | .notDirectory => "Not a directory (os error 20)"
  | .isDirectory => "Is a directory (os error 21)"
  | .nameTooLong => "File name too long (os error 36)"
  | .zeroInName => "file name contained an unexpected NUL byte"

end Disk

open Disk

/-- The nodes of a disk and the location that paths start from. -/
structure Disk where
  start : Location
  nodes : List (Location × Node)

namespace Disk

open DashboardTools.Text

/-- The access bits of a directory that nobody chose: everybody may enter it, and its owner may
change it. -/
def commonMode : Nat := 0o755

/-- The disk with an empty directory to work in, below the root. -/
def empty : Disk where
  start := ["work".toList]
  nodes := [(["work".toList], .directory commonMode)]

/-- What is kept at a location; the root is always a directory. -/
def node? (disk : Disk) (location : Location) : Option Node :=
  if location = [] then some (.directory commonMode)
  else (disk.nodes.find? (·.1 == location)).map (·.2)

/-- The disk without what is kept at a location. What lies below it is not touched. -/
def erase (disk : Disk) (location : Location) : Disk :=
  { disk with nodes := disk.nodes.filter (·.1 != location) }

/-- The disk with a node at a location, in place of an older one. -/
def put (disk : Disk) (location : Location) (node : Node) : Disk :=
  { disk with nodes := (location, node) :: (disk.erase location).nodes }

/-- How many bytes a name may have, counted in its encoded form. -/
def nameLimit : Nat := 255

/-- How many bytes a path may not reach, counted in its encoded form with room for an end mark. -/
def pathLimit : Nat := 4096

/-- What is kept under a name in a directory. A name that is too long cannot even be looked up. -/
def child? (disk : Disk) (here : Location) (name : List Char) : Except Problem (Option Node) :=
  if nameLimit < (Utf8.encode name).length then .error .nameTooLong
  else .ok (disk.node? (name :: here))

/-- The directory that a name on the way leads to. -/
def enter (disk : Disk) (here : Location) (name : List Char) : Except Problem Location :=
  if name = ['.'] then .ok here
  else if name = ['.', '.'] then .ok here.tail
  else
    match disk.child? here name with
    | .error problem => .error problem
    | .ok none => .error .notFound
    | .ok (some (.file _ _)) => .error .notDirectory
    | .ok (some (.directory _)) => .ok (name :: here)

/-- The directory that names lead to, one after the other. -/
def enterAll (disk : Disk) (here : Location) : List (List Char) → Except Problem Location
  | [] => .ok here
  | name :: rest =>
    match disk.enter here name with
    | .error problem => .error problem
    | .ok next => disk.enterAll next rest

/-- Where a path ends: under a name in a directory, or at a directory that it has no name for. A
name may have a slash after it. -/
inductive Ending where
  | name (directory : Location) (name : List Char) (slash : Bool)
  | unnamed (location : Location)
  deriving DecidableEq

/-- Follows a path up to its end: through all names but the last, which need not be there. -/
def follow (disk : Disk) (path : Path) : Except Problem Ending :=
  if path.contains '\x00' then .error .zeroInName
  else if path.isEmpty then .error .notFound
  else if pathLimit ≤ (Utf8.encode path).length then .error .nameTooLong
  else
    let names := path.segments.filter fun name => !name.isEmpty
    let here := if path.isRooted then [] else disk.start
    match names.getLast? with
    | none => .ok (.unnamed here)
    | some last =>
      match disk.enterAll here names.dropLast with
      | .error problem => .error problem
      | .ok directory =>
        if last = ['.'] then .ok (.unnamed directory)
        else if last = ['.', '.'] then .ok (.unnamed directory.tail)
        else .ok (.name directory last (path.getLast? == some '/'))

/-- The location of what a path leads to, with the node there. -/
def find (disk : Disk) (path : Path) : Except Problem (Location × Node) :=
  match disk.follow path with
  | .error problem => .error problem
  | .ok (.unnamed location) =>
    .ok (location, (disk.node? location).getD (.directory commonMode))
  | .ok (.name directory name slash) =>
    match disk.child? directory name with
    | .error problem => .error problem
    | .ok none => .error .notFound
    | .ok (some (.directory mode)) => .ok (name :: directory, .directory mode)
    | .ok (some (.file mode bytes)) =>
      if slash then .error .notDirectory else .ok (name :: directory, .file mode bytes)

end Disk

end DashboardTools
