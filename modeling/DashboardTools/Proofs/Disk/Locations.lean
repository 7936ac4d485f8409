import DashboardTools.Disk.Operation

/-!
# What is where on a disk

Putting and erasing a node change what is kept at one location. In a well-formed disk the working
directory is there and every node lies in a directory; so the locations on the way to anything are
directories, and what is reached by going up from a directory is one.
-/

namespace DashboardTools.Disk

/-- A location holds a directory, with whatever access bits. -/
def HasDirectory (disk : Disk) (location : Location) : Prop :=
  ∃ mode, disk.node? location = some (.directory mode)

/-- Whether a place is a directory can be decided by looking at what stands there. -/
instance (disk : Disk) (location : Location) : Decidable (disk.HasDirectory location) :=
  match found : disk.node? location with
  | some (.directory mode) => .isTrue ⟨mode, found⟩
  | some (.file _ _) => .isFalse fun ⟨_, other⟩ => nomatch found.symm.trans other
  | none => .isFalse fun ⟨_, other⟩ => nomatch found.symm.trans other

/-- The bytes of the file at a location, if one is there. -/
def bytesAt? (disk : Disk) (location : Location) : Option (List UInt8) :=
  match disk.node? location with
  | some (.file _ bytes) => some bytes
  | _ => none

/-- A disk as a system keeps it: one works in a directory, and whatever there is lies in one. -/
structure WellFormed (disk : Disk) : Prop where
  start : disk.HasDirectory disk.start
  parent : ∀ name location, disk.node? (name :: location) ≠ none → disk.HasDirectory location

/-- A disk is well-formed as soon as every entry of its list lies in a directory. -/
theorem wellFormed_of_nodes {disk : Disk} (start : disk.HasDirectory disk.start)
    (inside : ∀ entry ∈ disk.nodes, disk.HasDirectory entry.1.tail) : disk.WellFormed where
  start := start
  parent name location there := by
    unfold node? at there
    rw [if_neg (List.cons_ne_nil _ _)] at there
    cases found : disk.nodes.find? (·.1 == name :: location) with
    | none => simp [found] at there
    | some entry =>
      have same : entry.1 = name :: location := by simpa using List.find?_some found
      have above := inside entry (List.mem_of_find?_eq_some found)
      rwa [same] at above

/-- The empty disk is well-formed: it has its root, and nothing below it. -/
theorem empty_wellFormed : Disk.empty.WellFormed := wellFormed_of_nodes (by decide) (by decide)

/-- The root is a directory on every disk, whether it is listed or not. -/
@[simp] theorem node?_root (disk : Disk) : disk.node? [] = some (.directory commonMode) := rfl

/-- Erasing leaves nothing at a location and all else as it is. -/
theorem node?_erase (disk : Disk) (location other : Location) :
    (disk.erase location).node? other =
      if other = [] then some (.directory commonMode)
      else if other = location then none else disk.node? other := by
  unfold node? erase
  by_cases root : other = []
  · simp [root]
  · by_cases same : other = location
    · subst same
      simp [root, List.find?_filter]
    · simp only [if_neg root, if_neg same, List.find?_filter]
      congr 2
      funext entry
      by_cases here : entry.1 = other <;> simp [here, same]

/-- Putting a node fills one location and leaves all else as it is. -/
theorem node?_put (disk : Disk) (location other : Location) (node : Node) :
    (disk.put location node).node? other =
      if other = [] then some (.directory commonMode)
      else if other = location then some node else disk.node? other := by
  by_cases root : other = []
  · simp [node?, root]
  · by_cases same : other = location
    · simp [node?, put, same]
    · have elsewhere := disk.node?_erase location other
      rw [if_neg root, if_neg same] at elsewhere
      rw [if_neg root, if_neg same, ← elsewhere]
      have apart : (location == other) = false := by simpa using fun equal => same equal.symm
      simp [node?, put, root, apart]

/-- What was put at a place below the root is what stands there. -/
theorem node?_put_same (disk : Disk) (name : List Char) (directory : Location) (node : Node) :
    (disk.put (name :: directory) node).node? (name :: directory) = some node := by
  simp [node?_put]

/-- Putting a node at one place leaves every other place as it was. -/
theorem node?_put_other (disk : Disk) {location other : Location} (node : Node)
    (apart : other ≠ location) : (disk.put location node).node? other = disk.node? other := by
  cases other with
  | nil => simp
  | cons name directory => simp [node?_put, apart]

/-- The root is a directory of every disk, although no node is kept for it. -/
@[simp] theorem hasDirectory_root (disk : Disk) : disk.HasDirectory [] := ⟨_, rfl⟩

/-- The bytes at a place are known exactly when a file with some mode stands there. -/
theorem bytesAt?_eq_some_iff (disk : Disk) (location : Location) (bytes : List UInt8) :
    disk.bytesAt? location = some bytes ↔ ∃ mode, disk.node? location = some (.file mode bytes) := by
  unfold bytesAt?
  cases disk.node? location with
  | none => simp
  | some node => cases node <;> simp

/-- Going up from a directory leads to a directory. At the root there is no further up. -/
theorem WellFormed.hasDirectory_tail {disk : Disk} (wellFormed : disk.WellFormed)
    {location : Location} (here : disk.HasDirectory location) :
    disk.HasDirectory location.tail := by
  cases location with
  | nil => exact disk.hasDirectory_root
  | cons name above =>
    obtain ⟨mode, found⟩ := here
    exact wellFormed.parent name above (by simp [found])

/-- Everything above a node is a directory, up to the root. -/
theorem WellFormed.hasDirectory_of_suffix {disk : Disk} (wellFormed : disk.WellFormed)
    {name : List Char} {location above : Location} (there : disk.node? (name :: location) ≠ none)
    (higher : above <:+ location) : disk.HasDirectory above := by
  induction location generalizing name with
  | nil =>
    rw [List.suffix_nil.mp higher]
    exact disk.hasDirectory_root
  | cons next rest inductionHypothesis =>
    have here := wellFormed.parent name (next :: rest) there
    rcases List.suffix_cons_iff.mp higher with rfl | further
    · exact here
    · obtain ⟨mode, found⟩ := here
      have present : disk.node? (next :: rest) ≠ none := by simp [found]
      exact inductionHypothesis present further

end DashboardTools.Disk
