import DashboardTools.Proofs.Disk.Following

/-!
# What operations do to a disk

Each operation that succeeds puts one node into a directory, or takes one file away, or does both.
The lemmas about an operation say where, and what was there before. All of them keep a disk
well-formed and keep its directories, so paths that led somewhere still lead there.
-/

namespace DashboardTools.Disk

open DashboardTools.Text

/-- One disk is the other with a file at a location. -/
structure Written (before after : Disk) (location : Location) (mode : Nat) (bytes : List UInt8) :
    Prop where
  start : after.start = before.start
  node : ∀ other, after.node? other =
    if other = location then some (.file mode bytes) else before.node? other

/-- One disk is the other without what was at a location. -/
structure Emptied (before after : Disk) (location : Location) : Prop where
  start : after.start = before.start
  node : ∀ other, after.node? other = if other = location then none else before.node? other

/-- Putting a file at a place below the root writes it there and changes nothing else. -/
theorem written_put (disk : Disk) (name : List Char) (directory : Location) (mode : Nat)
    (bytes : List UInt8) :
    Written disk (disk.put (name :: directory) (.file mode bytes)) (name :: directory) mode bytes := by
  refine ⟨rfl, fun other => ?_⟩
  rw [node?_put]
  by_cases root : other = []
  · simp [root]
  · rw [if_neg root]

/-- Erasing a place below the root empties it and changes nothing else. -/
theorem emptied_erase (disk : Disk) (name : List Char) (directory : Location) :
    Emptied disk (disk.erase (name :: directory)) (name :: directory) := by
  refine ⟨rfl, fun other => ?_⟩
  rw [node?_erase]
  by_cases root : other = []
  · simp [root]
  · rw [if_neg root]

/-- Of two writings to one place the later counts. Together they are one writing of its bytes. -/
theorem Written.again {first second third : Disk} {location : Location} {mode newMode : Nat}
    {bytes newBytes : List UInt8} (one : Written first second location mode bytes)
    (other : Written second third location newMode newBytes) :
    Written first third location newMode newBytes := by
  refine ⟨other.start.trans one.start, fun place => ?_⟩
  rw [other.node, one.node]
  split <;> rfl

/-- After a file has been written, its place holds exactly that file. -/
theorem Written.here {before after : Disk} {location : Location} {mode : Nat} {bytes : List UInt8}
    (written : Written before after location mode bytes) :
    after.node? location = some (.file mode bytes) := by
  rw [written.node, if_pos rfl]

/-- Where nothing stands there is no directory, so the place is not the root. -/
theorem not_hasDirectory_of_none {disk : Disk} {location : Location}
    (empty : disk.node? location = none) : ¬ disk.HasDirectory location := by
  rintro ⟨mode, found⟩
  rw [empty] at found
  cases found

/-- Where a file stands there is no directory, since a place holds one thing at most. -/
theorem not_hasDirectory_of_file {disk : Disk} {location : Location} {mode : Nat}
    {bytes : List UInt8} (file : disk.node? location = some (.file mode bytes)) :
    ¬ disk.HasDirectory location := by
  rintro ⟨kept, found⟩
  rw [file] at found
  cases found

/-- A change at one location where no directory was keeps all directories. -/
theorem KeepsDirectories.of_elsewhere {before after : Disk} {location : Location}
    (start : after.start = before.start)
    (elsewhere : ∀ other, other ≠ location → after.node? other = before.node? other)
    (free : ¬ before.HasDirectory location) : before.KeepsDirectories after := by
  refine ⟨start, fun place there => ?_⟩
  have apart : place ≠ location := fun same => free (same ▸ there)
  unfold HasDirectory
  rw [elsewhere place apart]
  exact there

/-- What is kept after writing a file is what was written or was there before. -/
theorem Written.bytesAt? {before after : Disk} {location other : Location} {mode : Nat}
    {bytes held : List UInt8} (written : Written before after location mode bytes)
    (there : after.bytesAt? other = some held) :
    before.bytesAt? other = some held ∨ held = bytes := by
  unfold Disk.bytesAt? at there ⊢
  rw [written.node] at there
  by_cases same : other = location
  · rw [if_pos same] at there
    exact .inr (Option.some.inj there).symm
  · rw [if_neg same] at there
    exact .inl there

/-- Writing a file leaves every other place as it was. -/
theorem Written.elsewhere {before after : Disk} {location : Location} {mode : Nat}
    {bytes : List UInt8} (written : Written before after location mode bytes) (other : Location)
    (apart : other ≠ location) : after.node? other = before.node? other := by
  rw [written.node, if_neg apart]

/-- Writing a file where no directory is keeps the directories. -/
theorem Written.keepsDirectories {before after : Disk} {location : Location} {mode : Nat}
    {bytes : List UInt8} (written : Written before after location mode bytes)
    (free : ¬ before.HasDirectory location) : before.KeepsDirectories after :=
  .of_elsewhere written.start written.elsewhere free

/-- Writing a file makes no directory, so every directory after it was one before it. -/
theorem Written.keepsDirectoriesBack {before after : Disk} {location : Location} {mode : Nat}
    {bytes : List UInt8} (written : Written before after location mode bytes) :
    after.KeepsDirectories before :=
  .of_elsewhere written.start.symm (fun other apart => (written.elsewhere other apart).symm)
    (not_hasDirectory_of_file written.here)

/-- Writing a file into a directory keeps a disk well-formed. -/
theorem WellFormed.written {before after : Disk} (wellFormed : before.WellFormed)
    {location : Location} {mode : Nat} {bytes : List UInt8}
    (written : Written before after location mode bytes)
    (into : before.HasDirectory location.tail) (free : ¬ before.HasDirectory location) :
    after.WellFormed := by
  have keeps := written.keepsDirectories free
  refine ⟨written.start ▸ keeps.directory _ wellFormed.start, fun other above present => ?_⟩
  by_cases same : other :: above = location
  · subst same
    exact keeps.directory _ into
  · rw [written.node, if_neg same] at present
    exact keeps.directory _ (wellFormed.parent other above present)

/-- What is kept after taking a file away was there before. -/
theorem Emptied.bytesAt? {before after : Disk} {location other : Location} {held : List UInt8}
    (emptied : Emptied before after location) (there : after.bytesAt? other = some held) :
    before.bytesAt? other = some held := by
  unfold Disk.bytesAt? at there ⊢
  rw [emptied.node] at there
  by_cases same : other = location
  · rw [if_pos same] at there
    cases there
  · rwa [if_neg same] at there

/-- Emptying a place leaves every other place as it was. -/
theorem Emptied.elsewhere {before after : Disk} {location : Location}
    (emptied : Emptied before after location) (other : Location) (apart : other ≠ location) :
    after.node? other = before.node? other := by
  rw [emptied.node, if_neg apart]

/-- Taking a file away keeps the directories, because the place that is emptied held none. -/
theorem Emptied.keepsDirectories {before after : Disk} {location : Location}
    (emptied : Emptied before after location) (free : ¬ before.HasDirectory location) :
    before.KeepsDirectories after :=
  .of_elsewhere emptied.start emptied.elsewhere free

/-- Taking a file away makes no directory, so every directory after it was one before it. -/
theorem Emptied.keepsDirectoriesBack {before after : Disk} {location : Location}
    (emptied : Emptied before after location) : after.KeepsDirectories before := by
  have empty : after.node? location = none := by rw [emptied.node, if_pos rfl]
  exact .of_elsewhere emptied.start.symm (fun other apart => (emptied.elsewhere other apart).symm)
    (not_hasDirectory_of_none empty)

/-- A file that is written and then taken away leaves its place empty. -/
theorem Written.emptied {before between after : Disk} {location : Location} {mode : Nat}
    {bytes : List UInt8} (written : Written before between location mode bytes)
    (emptied : Emptied between after location) : Emptied before after location := by
  refine ⟨emptied.start.trans written.start, fun other => ?_⟩
  rw [emptied.node, written.node]
  split <;> rfl

/-- Taking a file away keeps a disk well-formed: nothing lies in a file. -/
theorem WellFormed.emptied {before after : Disk} (wellFormed : before.WellFormed)
    {location : Location} (emptied : Emptied before after location)
    (free : ¬ before.HasDirectory location) : after.WellFormed := by
  have keeps := emptied.keepsDirectories free
  refine ⟨emptied.start ▸ keeps.directory _ wellFormed.start, fun other above present => ?_⟩
  rw [emptied.node] at present
  split at present
  · exact absurd rfl present
  · exact keeps.directory _ (wellFormed.parent other above present)

/-- One disk is the other with more directories of one mode, made where nothing was. -/
structure Grown (mode : Nat) (before after : Disk) : Prop where
  start : after.start = before.start
  kept : ∀ location node, before.node? location = some node → after.node? location = some node
  added : ∀ location, before.node? location = none →
    after.node? location = none ∨ after.node? location = some (.directory mode)

/-- A disk has grown from itself by no directories at all, whatever their mode would be. -/
theorem Grown.refl (mode : Nat) (disk : Disk) : Grown mode disk disk :=
  ⟨rfl, fun _ _ => id, fun _ => .inl⟩

/-- Growing is transitive: directories added in two rounds were added to the first disk. -/
theorem Grown.trans {mode : Nat} {first second third : Disk} (earlier : Grown mode first second)
    (later : Grown mode second third) : Grown mode first third := by
  refine ⟨later.start.trans earlier.start,
    fun location node found => later.kept _ _ (earlier.kept _ _ found), fun location empty => ?_⟩
  rcases earlier.added location empty with still | made
  · exact later.added location still
  · exact .inr (later.kept _ _ made)

/-- Growing keeps every directory, since it only adds directories where nothing was. -/
theorem Grown.keepsDirectories {mode : Nat} {before after : Disk} (grown : Grown mode before after) :
    before.KeepsDirectories after := by
  refine ⟨grown.start, ?_⟩
  rintro location ⟨kept, there⟩
  exact ⟨kept, grown.kept _ _ there⟩

/-- A disk that has grown has the same files, each with its mode and its bytes. -/
theorem Grown.file_iff {mode : Nat} {before after : Disk} (grown : Grown mode before after)
    (location : Location) (fileMode : Nat) (bytes : List UInt8) :
    after.node? location = some (.file fileMode bytes) ↔
      before.node? location = some (.file fileMode bytes) := by
  refine ⟨fun found => ?_, grown.kept location _⟩
  cases present : before.node? location with
  | none =>
    rcases grown.added location present with still | made
    · rw [found] at still
      cases still
    · rw [found] at made
      cases made
  | some node =>
    rw [← found]
    exact (grown.kept location node present).symm

/-- Making a directory where nothing was makes a disk grow and keeps it well-formed. -/
theorem WellFormed.grown_put {disk : Disk} (wellFormed : disk.WellFormed) {name : List Char}
    {directory : Location} (into : disk.HasDirectory directory)
    (empty : disk.node? (name :: directory) = none) (mode : Nat) :
    (disk.put (name :: directory) (.directory mode)).WellFormed ∧
      Grown mode disk (disk.put (name :: directory) (.directory mode)) := by
  have grown : Grown mode disk (disk.put (name :: directory) (.directory mode)) := by
    refine ⟨rfl, fun location node found => ?_, fun location absent => ?_⟩
    · have apart : location ≠ name :: directory := by
        rintro rfl
        rw [empty] at found
        cases found
      rw [node?_put_other disk _ apart]
      exact found
    · by_cases same : location = name :: directory
      · rw [same]
        exact .inr (node?_put_same disk name directory _)
      · rw [node?_put_other disk _ same]
        exact .inl absent
  refine ⟨⟨grown.keepsDirectories.directory _ wellFormed.start, fun other above present => ?_⟩,
    grown⟩
  by_cases same : other :: above = name :: directory
  · obtain ⟨rfl, rfl⟩ := List.cons.inj same
    exact grown.keepsDirectories.directory _ into
  · rw [node?_put_other disk _ same] at present
    exact grown.keepsDirectories.directory _ (wellFormed.parent other above present)

variable {disk next : Disk} {path : Path} {mode : Nat}

/-- A look-up of a child succeeds exactly when the name is not too long, and then it answers what
stands at that place. -/
theorem child?_eq_ok_iff (disk : Disk) (here : Location) (name : List Char) (node? : Option Node) :
    disk.child? here name = .ok node? ↔
      (Utf8.encode name).length ≤ nameLimit ∧ disk.node? (name :: here) = node? := by
  unfold child?
  split
  next long =>
    constructor
    · intro impossible
      cases impossible
    · intro ⟨short, _⟩
      omega
  next short =>
    rw [Except.ok.injEq]
    exact ⟨fun same => ⟨by omega, same⟩, fun both => both.2⟩

/-- A directory is made where nothing was, under the last name of its path, and nothing else
changes. -/
theorem makeDirectory_ok (made : disk.makeDirectory path mode = .ok next) :
    ∃ directory name slash, disk.follow path = .ok (.name directory name slash) ∧
      (Utf8.encode name).length ≤ nameLimit ∧ disk.node? (name :: directory) = none ∧
      next = disk.put (name :: directory) (.directory mode) := by
  unfold makeDirectory at made
  split at made
  next => cases made
  next => cases made
  next directory name slash followed =>
    split at made
    next => cases made
    next => cases made
    next child =>
      obtain ⟨short, empty⟩ := (child?_eq_ok_iff disk directory name none).mp child
      exact ⟨directory, name, slash, followed, short, empty, (Except.ok.inj made).symm⟩

/-- A file is created where nothing was, or is emptied with its access bits kept. -/
theorem create_ok (created : disk.create path mode = .ok next) :
    ∃ location, disk.LeadsTo path location ∧
      ((disk.node? location = none ∧ next = disk.put location (.file mode [])) ∨
        ∃ oldMode old, disk.node? location = some (.file oldMode old) ∧
          next = disk.put location (.file oldMode [])) := by
  unfold create at created
  split at created
  next => cases created
  next => cases created
  next directory name slash followed =>
    cases slash with
    | true => cases created
    | false =>
      rw [if_neg Bool.false_ne_true] at created
      split at created
      next => cases created
      next child =>
        obtain ⟨short, empty⟩ := (child?_eq_ok_iff disk directory name _).mp child
        exact ⟨name :: directory, ⟨directory, name, rfl, followed, short⟩,
          .inl ⟨empty, (Except.ok.inj created).symm⟩⟩
      next => cases created
      next oldMode old child =>
        obtain ⟨short, found⟩ := (child?_eq_ok_iff disk directory name _).mp child
        exact ⟨name :: directory, ⟨directory, name, rfl, followed, short⟩,
          .inr ⟨oldMode, old, found, (Except.ok.inj created).symm⟩⟩

/-- Wherever a path leads to a place without a directory, a file can be created. -/
theorem create_of_leadsTo {location : Location} (leads : disk.LeadsTo path location)
    (free : ¬ disk.HasDirectory location) (mode : Nat) :
    ∃ kept next, disk.create path mode = .ok next ∧ Written disk next location kept [] := by
  obtain ⟨directory, name, rfl, followed, short⟩ := leads
  have child := (child?_eq_ok_iff disk directory name _).mpr ⟨short, rfl⟩
  unfold create
  simp only [followed, child]
  rw [if_neg Bool.false_ne_true]
  cases there : disk.node? (name :: directory) with
  | none => exact ⟨mode, _, rfl, written_put disk name directory mode []⟩
  | some node =>
    cases node with
    | file kept old => exact ⟨kept, _, rfl, written_put disk name directory kept []⟩
    | directory kept => exact absurd ⟨kept, there⟩ free

/-- Bytes go to the end of the file that the path leads to. -/
theorem append_of_leadsTo {location : Location} {old : List UInt8}
    (leads : disk.LeadsTo path location)
    (found : disk.node? location = some (.file mode old)) (bytes : List UInt8) :
    disk.append path bytes = .ok (disk.put location (.file mode (old ++ bytes))) := by
  obtain ⟨directory, name, rfl, followed, short⟩ := leads
  have child := (child?_eq_ok_iff disk directory name _).mpr ⟨short, found⟩
  simp [append, find, followed, child]

/-- A file moves from the place of one path to the place of another, where no directory is. -/
theorem rename_ok {source target : Path} (renamed : disk.rename source target = .ok next) :
    ∃ sourceLocation location fileMode bytes slash, (∃ directory name, sourceLocation = name ::
        directory ∧ disk.follow source = .ok (.name directory name slash)) ∧
      disk.LeadsTo target location ∧
      disk.node? sourceLocation = some (.file fileMode bytes) ∧ ¬ disk.HasDirectory location ∧
      next = (disk.erase sourceLocation).put location (.file fileMode bytes) := by
  unfold rename at renamed
  split at renamed
  next => cases renamed
  next => cases renamed
  next => cases renamed
  next => cases renamed
  next sourceDirectory sourceName sourceSlash directory name slash followedSource followed =>
    split at renamed
    next => cases renamed
    next => cases renamed
    next => cases renamed
    next => cases renamed
    next fileMode bytes there childSource child =>
      obtain ⟨_, found⟩ := (child?_eq_ok_iff disk sourceDirectory sourceName _).mp childSource
      obtain ⟨short, present⟩ := (child?_eq_ok_iff disk directory name _).mp child
      cases slash with
      | true => cases renamed
      | false =>
        rw [if_neg Bool.false_ne_true] at renamed
        split at renamed
        next => cases renamed
        next noDirectory =>
          have free : ¬ disk.HasDirectory (name :: directory) := by
            rintro ⟨kept, isDirectory⟩
            exact noDirectory kept (present.symm.trans isDirectory)
          exact ⟨sourceName :: sourceDirectory, name :: directory, fileMode, bytes, sourceSlash,
            ⟨sourceDirectory, sourceName, rfl, followedSource⟩,
            ⟨directory, name, rfl, followed, short⟩, found, free, (Except.ok.inj renamed).symm⟩

/-- A file that a path leads to can always be moved to a place that a path leads to and where no
directory is. -/
theorem rename_of_leadsTo {source target : Path} {sourceLocation location : Location}
    {bytes : List UInt8} (leadsSource : disk.LeadsTo source sourceLocation)
    (leads : disk.LeadsTo target location)
    (found : disk.node? sourceLocation = some (.file mode bytes))
    (free : ¬ disk.HasDirectory location) :
    disk.rename source target =
      .ok ((disk.erase sourceLocation).put location (.file mode bytes)) := by
  obtain ⟨sourceDirectory, sourceName, rfl, followedSource, shortSource⟩ := leadsSource
  obtain ⟨directory, name, rfl, followed, short⟩ := leads
  have childSource := (child?_eq_ok_iff disk sourceDirectory sourceName _).mpr ⟨shortSource, found⟩
  have child := (child?_eq_ok_iff disk directory name _).mpr ⟨short, rfl⟩
  unfold rename
  simp only [followedSource, followed, childSource, child]
  rw [if_neg Bool.false_ne_true]
  cases there : disk.node? (name :: directory) with
  | none => rfl
  | some node =>
    cases node with
    | file oldMode old => rfl
    | directory oldMode => exact absurd ⟨oldMode, there⟩ free

/-- Only a file that the path leads to is removed. -/
theorem remove_eq_ok_iff :
    disk.remove path = .ok next ↔
      ∃ location fileMode bytes, disk.LeadsTo path location ∧
        disk.node? location = some (.file fileMode bytes) ∧ next = disk.erase location := by
  constructor
  · intro removed
    unfold remove at removed
    split at removed
    next => cases removed
    next => cases removed
    next directory name slash followed =>
      split at removed
      next => cases removed
      next => cases removed
      next => cases removed
      next fileMode bytes child =>
        obtain ⟨short, found⟩ := (child?_eq_ok_iff disk directory name _).mp child
        cases slash with
        | true => cases removed
        | false =>
          exact ⟨name :: directory, fileMode, bytes, ⟨directory, name, rfl, followed, short⟩,
            found, (Except.ok.inj removed).symm⟩
  · rintro ⟨_, fileMode, bytes, ⟨directory, name, rfl, followed, short⟩, found, rfl⟩
    have child := (child?_eq_ok_iff disk directory name _).mpr ⟨short, found⟩
    simp [remove, followed, child]

/-- The file that a path leads to gets other access bits. -/
theorem setMode_of_leadsTo {location : Location} {bytes : List UInt8} {oldMode : Nat}
    (leads : disk.LeadsTo path location)
    (found : disk.node? location = some (.file oldMode bytes)) (mode : Nat) :
    disk.setMode path mode = .ok (disk.put location (.file mode bytes)) := by
  obtain ⟨directory, name, rfl, followed, short⟩ := leads
  have child := (child?_eq_ok_iff disk directory name _).mpr ⟨short, found⟩
  simp [setMode, find, followed, child]

end DashboardTools.Disk
