import DashboardTools.Proofs.Disk.Changes
import DashboardTools.Proofs.Program.Coupling

/-!
# Disks that differ in the bytes of files

Two disks are alike up to a relation between bytes when they have the same directories and files,
with the same access bits, and related bytes in each file. No operation looks at the bytes of a
file. So an operation fails on both disks for the same reason, or works on both and leaves disks
that are alike; only bytes that are written differently on both sides have to be looked at.
-/

namespace DashboardTools.Disk

/-- Two nodes are the same but for the bytes of a file, which are related. -/
inductive NodesAlike (related : List UInt8 → List UInt8 → Prop) : Node → Node → Prop where
  | directory (mode : Nat) : NodesAlike related (.directory mode) (.directory mode)
  | file {one other : List UInt8} (mode : Nat) (bytes : related one other) :
    NodesAlike related (.file mode one) (.file mode other)

/-- Two disks have the same directories and files, with related bytes in the files. -/
structure Alike (related : List UInt8 → List UInt8 → Prop) (disk other : Disk) : Prop where
  start : disk.start = other.start
  node : ∀ location,
    Option.Rel (NodesAlike related) (disk.node? location) (other.node? location)

variable {related : List UInt8 → List UInt8 → Prop} {disk other : Disk}

/-- A node is alike itself when the relation on bytes is reflexive. -/
theorem NodesAlike.refl (reflexive : ∀ bytes, related bytes bytes) (node : Node) :
    NodesAlike related node node := by
  cases node with
  | directory mode => exact .directory mode
  | file mode bytes => exact .file mode (reflexive bytes)

/-- A disk is alike itself when the relation on bytes is reflexive. -/
theorem Alike.refl (reflexive : ∀ bytes, related bytes bytes) (disk : Disk) :
    Alike related disk disk := by
  refine ⟨rfl, fun location => ?_⟩
  cases disk.node? location with
  | none => exact .none
  | some node => exact .some (.refl reflexive node)

/-- A child is looked up alike on alike disks: it is missing on both, refused on both with the same
problem, or there on both with alike nodes. -/
theorem Alike.child (alike : Alike related disk other) (here : Location) (name : List Char) :
    AgreeUpTo (Option.Rel (NodesAlike related)) (disk.child? here name) (other.child? here name) := by
  unfold child?
  split
  · exact .error _
  · exact .ok (alike.node _)

/-- Entering a name tells directories from files and looks at nothing else. -/
theorem Alike.enter (alike : Alike related disk other) (here : Location) (name : List Char) :
    disk.enter here name = other.enter here name := by
  unfold Disk.enter
  split
  · rfl
  · split
    · rfl
    · have child := alike.child here name
      generalize disk.child? here name = one at child
      generalize other.child? here name = two at child
      cases child with
      | error problem => rfl
      | ok nodes =>
        cases nodes with
        | none => rfl
        | some nodes => cases nodes <;> rfl

/-- Names are walked through alike on alike disks, since a walk sees only which places are
directories. -/
theorem Alike.enterAll (alike : Alike related disk other) (here : Location)
    (names : List (List Char)) : disk.enterAll here names = other.enterAll here names := by
  induction names generalizing here with
  | nil => rfl
  | cons name rest inductionHypothesis =>
    simp only [Disk.enterAll, alike.enter here name]
    cases other.enter here name with
    | error problem => rfl
    | ok next => exact inductionHypothesis next

/-- A path is followed to the same place on alike disks, or refused with the same problem. -/
theorem Alike.follow (alike : Alike related disk other) (path : Path) :
    disk.follow path = other.follow path := by
  unfold Disk.follow
  simp only [alike.start, alike.enterAll]

/-- A path that leads to a place on one disk leads to it on an alike disk too. -/
theorem Alike.leadsTo (alike : Alike related disk other) {path : Path} {location : Location}
    (leads : disk.LeadsTo path location) : other.LeadsTo path location := by
  obtain ⟨directory, name, same, followed, short⟩ := leads
  rw [alike.follow] at followed
  exact ⟨directory, name, same, followed, short⟩

/-- A path leads to one location on both disks, with nodes that are alike. -/
theorem Alike.find (alike : Alike related disk other) (path : Path) :
    AgreeUpTo (fun found otherFound => found.1 = otherFound.1 ∧
      NodesAlike related found.2 otherFound.2) (disk.find path) (other.find path) := by
  unfold Disk.find
  rw [alike.follow path]
  cases other.follow path with
  | error problem => exact .error problem
  | ok ending =>
    cases ending with
    | unnamed location =>
      refine .ok ⟨rfl, ?_⟩
      have nodes := alike.node location
      generalize disk.node? location = one at nodes ⊢
      generalize other.node? location = two at nodes ⊢
      cases nodes with
      | none => exact .directory _
      | some nodes => exact nodes
    | name directory name slash =>
      have child := alike.child directory name
      dsimp only
      generalize disk.child? directory name = one at child ⊢
      generalize other.child? directory name = two at child ⊢
      cases child with
      | error problem => exact .error problem
      | ok nodes =>
        cases nodes with
        | none => exact .error _
        | some nodes =>
          cases nodes with
          | directory mode => exact .ok ⟨rfl, .directory mode⟩
          | file mode bytes =>
            cases slash with
            | true => exact .error _
            | false => exact .ok ⟨rfl, .file mode bytes⟩

/-- Reading a path on alike disks gives related bytes or the same problem. -/
theorem Alike.read (alike : Alike related disk other) (path : Path) :
    AgreeUpTo related (disk.read path) (other.read path) := by
  unfold Disk.read
  have found := alike.find path
  generalize disk.find path = one at found ⊢
  generalize other.find path = two at found ⊢
  cases found with
  | error problem => exact .error problem
  | @ok one two both =>
    obtain ⟨location, node⟩ := one
    obtain ⟨otherLocation, otherNode⟩ := two
    obtain ⟨_, nodes⟩ := both
    cases nodes with
    | directory mode => exact .error _
    | file mode bytes => exact .ok bytes

/-- Alike disks agree on whether there is something at a path. -/
theorem Alike.isThere (alike : Alike related disk other) (path : Path) :
    disk.isThere path = other.isThere path := by
  unfold Disk.isThere
  have found := alike.find path
  generalize disk.find path = one at found ⊢
  generalize other.find path = two at found ⊢
  cases found <;> rfl

/-- Alike disks agree on whether there is a directory at a path. -/
theorem Alike.isDirectory (alike : Alike related disk other) (path : Path) :
    disk.isDirectory path = other.isDirectory path := by
  unfold Disk.isDirectory
  have found := alike.find path
  generalize disk.find path = one at found ⊢
  generalize other.find path = two at found ⊢
  cases found with
  | error problem => rfl
  | @ok one two both =>
    obtain ⟨location, node⟩ := one
    obtain ⟨otherLocation, otherNode⟩ := two
    obtain ⟨_, nodes⟩ := both
    cases nodes <;> rfl

/-- Putting alike nodes at the same place keeps disks alike. -/
theorem Alike.put (alike : Alike related disk other) (location : Location) {node otherNode : Node}
    (nodes : NodesAlike related node otherNode) :
    Alike related (disk.put location node) (other.put location otherNode) := by
  refine ⟨alike.start, fun place => ?_⟩
  rw [node?_put, node?_put]
  split
  · exact .some (.directory _)
  · split
    · exact .some nodes
    · exact alike.node place

/-- Erasing the same place keeps disks alike, whatever stood there on either of them. -/
theorem Alike.erase (alike : Alike related disk other) (location : Location) :
    Alike related (disk.erase location) (other.erase location) := by
  refine ⟨alike.start, fun place => ?_⟩
  rw [node?_erase, node?_erase]
  split
  · exact .some (.directory _)
  · split
    · exact .none
    · exact alike.node place

/-- Making a directory on alike disks leaves alike disks or meets the same problem. -/
theorem Alike.makeDirectory (alike : Alike related disk other) (path : Path) (mode : Nat) :
    AgreeUpTo (Alike related) (disk.makeDirectory path mode) (other.makeDirectory path mode) := by
  unfold Disk.makeDirectory
  rw [alike.follow path]
  cases other.follow path with
  | error problem => exact .error problem
  | ok ending =>
    cases ending with
    | unnamed location => exact .error _
    | name directory name slash =>
      have child := alike.child directory name
      dsimp only
      generalize disk.child? directory name = one at child ⊢
      generalize other.child? directory name = two at child ⊢
      cases child with
      | error problem => exact .error problem
      | ok nodes =>
        cases nodes with
        | none => exact .ok (alike.put _ (.directory mode))
        | some nodes => exact .error _

/-- Creating a file on alike disks leaves alike disks or meets the same problem. A new file is empty
on both, so the relation must hold of no bytes. -/
theorem Alike.create (alike : Alike related disk other) (empty : related [] []) (path : Path)
    (mode : Nat) : AgreeUpTo (Alike related) (disk.create path mode) (other.create path mode) := by
  unfold Disk.create
  rw [alike.follow path]
  cases other.follow path with
  | error problem => exact .error problem
  | ok ending =>
    cases ending with
    | unnamed location => exact .error _
    | name directory name slash =>
      have child := alike.child directory name
      dsimp only
      generalize disk.child? directory name = one at child ⊢
      generalize other.child? directory name = two at child ⊢
      cases slash with
      | true => exact .error _
      | false =>
        cases child with
        | error problem => exact .error problem
        | ok nodes =>
          cases nodes with
          | none => exact .ok (alike.put _ (.file mode empty))
          | some nodes =>
            cases nodes with
            | directory kept => exact .error _
            | file kept bytes => exact .ok (alike.put _ (.file kept empty))

/-- Renaming on alike disks leaves alike disks or meets the same problem. The moved bytes are
related because the source's bytes were. -/
theorem Alike.rename (alike : Alike related disk other) (source target : Path) :
    AgreeUpTo (Alike related) (disk.rename source target) (other.rename source target) := by
  unfold Disk.rename
  rw [alike.follow source, alike.follow target]
  cases other.follow source with
  | error problem => exact .error problem
  | ok sourceEnding =>
    cases other.follow target with
    | error problem => cases sourceEnding <;> exact .error problem
    | ok ending =>
      cases sourceEnding with
      | unnamed location => exact .error _
      | name sourceDirectory sourceName sourceSlash =>
        cases ending with
        | unnamed location => exact .error _
        | name directory name slash =>
          have sourceChild := alike.child sourceDirectory sourceName
          have child := alike.child directory name
          dsimp only
          generalize disk.child? sourceDirectory sourceName = sourceOne at sourceChild ⊢
          generalize other.child? sourceDirectory sourceName = sourceTwo at sourceChild ⊢
          generalize disk.child? directory name = one at child ⊢
          generalize other.child? directory name = two at child ⊢
          cases sourceChild with
          | error problem => exact .error problem
          | ok sourceNodes =>
            cases sourceNodes with
            | none => exact .error _
            | some sourceNodes =>
              cases child with
              | error problem => cases sourceNodes <;> exact .error problem
              | ok nodes =>
                cases sourceNodes with
                | directory mode => exact .error _
                | file mode bytes =>
                  have moved := (alike.erase (sourceName :: sourceDirectory)).put
                    (name :: directory) (.file mode bytes)
                  cases slash with
                  | true => exact .error _
                  | false =>
                    cases nodes with
                    | none => exact .ok moved
                    | some nodes =>
                      cases nodes with
                      | directory kept => exact .error _
                      | file kept old => exact .ok moved

/-- Removing a path on alike disks leaves alike disks or meets the same problem. -/
theorem Alike.remove (alike : Alike related disk other) (path : Path) :
    AgreeUpTo (Alike related) (disk.remove path) (other.remove path) := by
  unfold Disk.remove
  rw [alike.follow path]
  cases other.follow path with
  | error problem => exact .error problem
  | ok ending =>
    cases ending with
    | unnamed location => exact .error _
    | name directory name slash =>
      have child := alike.child directory name
      dsimp only
      generalize disk.child? directory name = one at child ⊢
      generalize other.child? directory name = two at child ⊢
      cases child with
      | error problem => exact .error problem
      | ok nodes =>
        cases nodes with
        | none => exact .error _
        | some nodes =>
          cases nodes with
          | directory mode => exact .error _
          | file mode bytes =>
            cases slash with
            | true => exact .error _
            | false => exact .ok (alike.erase _)

/-- Setting a mode on alike disks leaves alike disks or meets the same problem, since bytes stay as
they are. -/
theorem Alike.setMode (alike : Alike related disk other) (path : Path) (mode : Nat) :
    AgreeUpTo (Alike related) (disk.setMode path mode) (other.setMode path mode) := by
  unfold Disk.setMode
  have found := alike.find path
  generalize disk.find path = one at found ⊢
  generalize other.find path = two at found ⊢
  cases found with
  | error problem => exact .error problem
  | @ok one two both =>
    obtain ⟨location, node⟩ := one
    obtain ⟨otherLocation, otherNode⟩ := two
    obtain ⟨same, nodes⟩ := both
    obtain rfl : location = otherLocation := same
    cases nodes with
    | directory kept => exact .ok (alike.put _ (.directory mode))
    | file kept bytes => exact .ok (alike.put _ (.file mode bytes))

end DashboardTools.Disk
