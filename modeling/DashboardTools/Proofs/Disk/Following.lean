import DashboardTools.Proofs.Disk.Locations

/-!
# Where paths lead

How far a path can be followed depends on the directories alone. So a path that leads to a place
keeps leading there while directories are added and files come and go. The other way round, a path
that never goes up leads to a file of a well-formed disk as soon as every directory on the way to
that file is there, which it is.
-/

namespace DashboardTools.Disk

open DashboardTools.Text

/-- Every directory of one disk is a directory of the other, and one works in the same place. -/
structure KeepsDirectories (before after : Disk) : Prop where
  start : after.start = before.start
  directory : ∀ location, before.HasDirectory location → after.HasDirectory location

/-- A disk keeps its own directories, and starts where it starts. -/
theorem KeepsDirectories.refl (disk : Disk) : disk.KeepsDirectories disk := ⟨rfl, fun _ => id⟩

/-- Keeping directories is transitive, as long as the working directory stays the same
throughout. -/
theorem KeepsDirectories.trans {first second third : Disk}
    (earlier : first.KeepsDirectories second) (later : second.KeepsDirectories third) :
    first.KeepsDirectories third :=
  ⟨later.start.trans earlier.start, fun _ there => later.directory _ (earlier.directory _ there)⟩

/-- A name other than a dot or two dots is entered exactly when a directory of that name is
there. -/
theorem enter_name_eq_ok_iff (disk : Disk) (here next : Location) {name : List Char}
    (noDot : name ≠ ['.']) (noDots : name ≠ ['.', '.']) :
    disk.enter here name = .ok next ↔
      (Utf8.encode name).length ≤ nameLimit ∧ disk.HasDirectory (name :: here) ∧
        next = name :: here := by
  unfold enter child? HasDirectory
  by_cases long : nameLimit < (Utf8.encode name).length
  · simp only [if_neg noDot, if_neg noDots, if_pos long]
    constructor
    · intro impossible
      cases impossible
    · intro ⟨short, _⟩
      omega
  · have short : (Utf8.encode name).length ≤ nameLimit := by omega
    simp only [if_neg noDot, if_neg noDots, if_neg long, short, true_and]
    cases found : disk.node? (name :: here) with
    | none => simp
    | some node => cases node <;> simp [eq_comm]

/-- Entering a name needs directories only, so it leads to the same place on any disk that keeps
them. -/
theorem KeepsDirectories.enter {before after : Disk} (keeps : before.KeepsDirectories after)
    {here next : Location} {name : List Char} (entered : before.enter here name = .ok next) :
    after.enter here name = .ok next := by
  by_cases dot : name = ['.']
  · simpa [Disk.enter, dot] using entered
  · by_cases dots : name = ['.', '.']
    · simpa [Disk.enter, dots] using entered
    · obtain ⟨short, there, same⟩ := (enter_name_eq_ok_iff before here next dot dots).mp entered
      exact (enter_name_eq_ok_iff after here next dot dots).mpr
        ⟨short, keeps.directory _ there, same⟩

/-- A walk that succeeds still succeeds, and ends at the same place, after a change that keeps
directories. -/
theorem KeepsDirectories.enterAll {before after : Disk} (keeps : before.KeepsDirectories after)
    {names : List (List Char)} {here last : Location}
    (entered : before.enterAll here names = .ok last) : after.enterAll here names = .ok last := by
  induction names generalizing here with
  | nil => exact entered
  | cons name rest inductionHypothesis =>
    simp only [Disk.enterAll] at entered ⊢
    cases step : before.enter here name with
    | error problem => simp [step] at entered
    | ok next =>
      rw [step] at entered
      rw [keeps.enter step]
      exact inductionHypothesis entered

/-- Entering stays among the directories of a well-formed disk, going up as well as going down. -/
theorem WellFormed.hasDirectory_enter {disk : Disk} (wellFormed : disk.WellFormed)
    {here next : Location} {name : List Char} (there : disk.HasDirectory here)
    (entered : disk.enter here name = .ok next) : disk.HasDirectory next := by
  by_cases dot : name = ['.']
  · have same : here = next := by simpa [Disk.enter, dot] using entered
    exact same ▸ there
  · by_cases dots : name = ['.', '.']
    · have same : here.tail = next := by simpa [Disk.enter, dots] using entered
      exact same ▸ wellFormed.hasDirectory_tail there
    · obtain ⟨_, found, same⟩ := (enter_name_eq_ok_iff disk here next dot dots).mp entered
      exact same ▸ found

/-- On a well-formed disk a walk that starts in a directory ends in one. -/
theorem WellFormed.hasDirectory_enterAll {disk : Disk} (wellFormed : disk.WellFormed)
    {names : List (List Char)} {here last : Location} (there : disk.HasDirectory here)
    (entered : disk.enterAll here names = .ok last) : disk.HasDirectory last := by
  induction names generalizing here with
  | nil =>
    have same : here = last := by simpa [Disk.enterAll] using entered
    exact same ▸ there
  | cons name rest inductionHypothesis =>
    simp only [Disk.enterAll] at entered
    cases step : disk.enter here name with
    | error problem => simp [step] at entered
    | ok next =>
      rw [step] at entered
      exact inductionHypothesis (wellFormed.hasDirectory_enter there step) entered

/-- Where a path starts: at the root, or in the directory that the program works in. -/
def startOf (disk : Disk) (path : Path) : Location := if path.isRooted then [] else disk.start

/-- On a well-formed disk a path starts in a directory: in the root, or in the directory the program
works in. -/
theorem WellFormed.hasDirectory_startOf {disk : Disk} (wellFormed : disk.WellFormed)
    (path : Path) : disk.HasDirectory (disk.startOf path) := by
  unfold startOf
  split
  · exact disk.hasDirectory_root
  · exact wellFormed.start

/-- The segments of a path that are not empty, so repeated slashes and slashes at the ends do not
count. -/
def names (path : Path) : List (List Char) := path.segments.filter fun name => !name.isEmpty

/-- A path can be followed at all: it is not empty, short enough and has no zero in it. -/
def Followable (path : Path) : Prop :=
  path.contains '\x00' = false ∧ path.isEmpty = false ∧
    (Utf8.encode path).length < pathLimit

/-- Following a path, in terms of its names: all but the last are entered, and the last one is left
to whoever follows. -/
theorem follow_eq_ok_iff (disk : Disk) (path : Path) (ending : Ending) :
    disk.follow path = .ok ending ↔
      Followable path ∧
        (((names path).getLast? = none ∧ ending = .unnamed (disk.startOf path)) ∨
          ∃ last directory, (names path).getLast? = some last ∧
            disk.enterAll (disk.startOf path) (names path).dropLast = .ok directory ∧
            ending = if last = ['.'] then .unnamed directory
              else if last = ['.', '.'] then .unnamed directory.tail
              else .name directory last (path.getLast? == some '/')) := by
  unfold follow
  by_cases zero : path.contains '\x00' = true
  · rw [if_pos zero]
    constructor
    · intro impossible
      cases impossible
    · rintro ⟨⟨noZero, _⟩, _⟩
      exact Bool.noConfusion (noZero.symm.trans zero)
  · rw [if_neg zero]
    by_cases empty : path.isEmpty = true
    · rw [if_pos empty]
      constructor
      · intro impossible
        cases impossible
      · rintro ⟨⟨_, filled, _⟩, _⟩
        exact Bool.noConfusion (filled.symm.trans empty)
    · rw [if_neg empty]
      by_cases long : pathLimit ≤ (Utf8.encode path).length
      · simp only [if_pos long, Followable]
        constructor
        · intro impossible
          cases impossible
        · rintro ⟨⟨_, _, short⟩, _⟩
          omega
      · have short : (Utf8.encode path).length < pathLimit := by omega
        have followable : Followable path :=
          ⟨Bool.eq_false_iff.mpr zero, Bool.eq_false_iff.mpr empty, short⟩
        have named : (path.segments.filter fun name => !name.isEmpty) = names path := rfl
        have started : (if path.isRooted then [] else disk.start) = disk.startOf path := rfl
        simp only [if_neg long, followable, true_and, named, started]
        cases (names path).getLast? with
        | none => simp [eq_comm]
        | some last =>
          cases disk.enterAll (disk.startOf path) (names path).dropLast with
          | error problem => simp
          | ok directory =>
            by_cases dot : last = ['.']
            · simp [dot, eq_comm]
            · by_cases dots : last = ['.', '.']
              · simp [dots, eq_comm]
              · simp [dot, dots, eq_comm]

/-- Following a path needs directories only, so it ends alike on any disk that keeps them. -/
theorem KeepsDirectories.follow {before after : Disk} (keeps : before.KeepsDirectories after)
    {path : Path} {ending : Ending} (followed : before.follow path = .ok ending) :
    after.follow path = .ok ending := by
  have sameStart : after.startOf path = before.startOf path := by simp [startOf, keeps.start]
  rw [follow_eq_ok_iff] at followed ⊢
  rw [sameStart]
  obtain ⟨followable, unnamed | ⟨last, directory, isLast, entered, reached⟩⟩ := followed
  · exact ⟨followable, .inl unnamed⟩
  · exact ⟨followable, .inr ⟨last, directory, isLast, keeps.enterAll entered, reached⟩⟩

/-- A path that ends without a name leads to a directory. -/
theorem WellFormed.hasDirectory_unnamed {disk : Disk} (wellFormed : disk.WellFormed)
    {path : Path} {location : Location} (followed : disk.follow path = .ok (.unnamed location)) :
    disk.HasDirectory location := by
  obtain ⟨_, ⟨_, same⟩ | ⟨last, directory, _, entered, reached⟩⟩ :=
    (follow_eq_ok_iff disk path _).mp followed
  · rw [Ending.unnamed.inj same]
    exact wellFormed.hasDirectory_startOf path
  · have there := wellFormed.hasDirectory_enterAll (wellFormed.hasDirectory_startOf path) entered
    split at reached
    · rw [Ending.unnamed.inj reached]
      exact there
    · split at reached
      · rw [Ending.unnamed.inj reached]
        exact wellFormed.hasDirectory_tail there
      · cases reached

/-- A path that ends under a name leads into a directory. -/
theorem WellFormed.hasDirectory_name {disk : Disk} (wellFormed : disk.WellFormed)
    {path : Path} {directory : Location} {name : List Char} {slash : Bool}
    (followed : disk.follow path = .ok (.name directory name slash)) :
    disk.HasDirectory directory := by
  obtain ⟨_, ⟨_, same⟩ | ⟨last, reachedDirectory, _, entered, reached⟩⟩ :=
    (follow_eq_ok_iff disk path _).mp followed
  · cases same
  · have there := wellFormed.hasDirectory_enterAll (wellFormed.hasDirectory_startOf path) entered
    split at reached
    · cases reached
    · split at reached
      · cases reached
      · obtain ⟨rfl, _, _⟩ := Ending.name.inj reached
        exact there

/-- A path leads to the place of a file: it ends under a name that a file can have, with no slash
after it. -/
def LeadsTo (disk : Disk) (path : Path) (location : Location) : Prop :=
  ∃ directory name, location = name :: directory ∧
    disk.follow path = .ok (.name directory name false) ∧
    (Utf8.encode name).length ≤ nameLimit

/-- A path leads to at most one place, because following it is a function of the disk. -/
theorem LeadsTo.unique {disk : Disk} {path : Path} {first second : Location}
    (one : disk.LeadsTo path first) (other : disk.LeadsTo path second) : first = second := by
  obtain ⟨directory, name, rfl, followed, _⟩ := one
  obtain ⟨directory', name', rfl, followed', _⟩ := other
  have same := followed.symm.trans followed'
  simp only [Except.ok.injEq, Ending.name.injEq, and_true] at same
  rw [same.1, same.2]

/-- A path goes on leading to its place while directories are kept, since only directories are
walked through. -/
theorem LeadsTo.kept {before after : Disk} {path : Path} {location : Location}
    (leads : before.LeadsTo path location) (keeps : before.KeepsDirectories after) :
    after.LeadsTo path location := by
  obtain ⟨directory, name, same, followed, short⟩ := leads
  exact ⟨directory, name, same, keeps.follow followed, short⟩

/-- On a well-formed disk the place a path leads to lies in a directory, whether or not something
stands at it. -/
theorem WellFormed.hasDirectory_of_leadsTo {disk : Disk} (wellFormed : disk.WellFormed)
    {path : Path} {location : Location} (leads : disk.LeadsTo path location) :
    disk.HasDirectory location.tail := by
  obtain ⟨directory, name, rfl, followed, _⟩ := leads
  exact wellFormed.hasDirectory_name followed

/-- Looking a path up finds a file exactly when the path leads to its place. -/
theorem WellFormed.find_eq_file_iff {disk : Disk} (wellFormed : disk.WellFormed) (path : Path)
    (location : Location) (mode : Nat) (bytes : List UInt8) :
    disk.find path = .ok (location, .file mode bytes) ↔
      disk.LeadsTo path location ∧ disk.node? location = some (.file mode bytes) := by
  unfold find LeadsTo child?
  cases followed : disk.follow path with
  | error problem => simp
  | ok ending =>
    cases ending with
    | unnamed reached =>
      obtain ⟨kept, found⟩ := wellFormed.hasDirectory_unnamed followed
      simp [found]
    | name directory name slash =>
      by_cases long : nameLimit < (Utf8.encode name).length
      · have never : ¬ (Utf8.encode name).length ≤ nameLimit := by omega
        simp only [if_pos long, Except.ok.injEq, Ending.name.injEq]
        constructor
        · intro impossible
          cases impossible
        · rintro ⟨⟨_, _, _, ⟨rfl, rfl, _⟩, short⟩, _⟩
          exact absurd short never
      · have short : (Utf8.encode name).length ≤ nameLimit := by omega
        simp only [if_neg long]
        cases found : disk.node? (name :: directory) with
        | none =>
          simp only [Except.ok.injEq, Ending.name.injEq, reduceCtorEq, false_iff]
          rintro ⟨⟨_, _, rfl, ⟨rfl, rfl, _⟩, _⟩, there⟩
          rw [found] at there
          cases there
        | some node =>
          cases node with
          | directory kept =>
            simp only [Except.ok.injEq, Prod.mk.injEq, reduceCtorEq, and_false, false_iff,
              Ending.name.injEq]
            rintro ⟨⟨_, _, rfl, ⟨rfl, rfl, _⟩, _⟩, there⟩
            rw [found] at there
            cases there
          | file kept old =>
            cases slash with
            | true => simp
            | false =>
              simp only [Bool.false_eq_true, if_false, Except.ok.injEq, Prod.mk.injEq,
                Node.file.injEq, Ending.name.injEq, and_true]
              constructor
              · rintro ⟨rfl, rfl, rfl⟩
                exact ⟨⟨directory, name, rfl, ⟨rfl, rfl⟩, short⟩, found⟩
              · rintro ⟨⟨_, _, rfl, ⟨rfl, rfl⟩, _⟩, there⟩
                rw [found] at there
                cases there
                exact ⟨rfl, rfl, rfl⟩

/-- Reading gives the bytes of the file that a path leads to, and nothing else is ever read. -/
theorem WellFormed.read_eq_ok_iff {disk : Disk} (wellFormed : disk.WellFormed) (path : Path)
    (bytes : List UInt8) :
    disk.read path = .ok bytes ↔
      ∃ location, disk.LeadsTo path location ∧ disk.bytesAt? location = some bytes := by
  have throughFind : disk.read path = .ok bytes ↔
      ∃ location mode, disk.find path = .ok (location, .file mode bytes) := by
    unfold read
    cases disk.find path with
    | error problem => simp
    | ok found =>
      obtain ⟨location, node⟩ := found
      cases node <;> simp
  rw [throughFind]
  constructor
  · rintro ⟨location, mode, found⟩
    obtain ⟨leads, there⟩ := (wellFormed.find_eq_file_iff path location mode bytes).mp found
    exact ⟨location, leads, (bytesAt?_eq_some_iff disk location bytes).mpr ⟨mode, there⟩⟩
  · rintro ⟨location, leads, there⟩
    obtain ⟨mode, found⟩ := (bytesAt?_eq_some_iff disk location bytes).mp there
    exact ⟨location, mode, (wellFormed.find_eq_file_iff path location mode bytes).mpr
      ⟨leads, found⟩⟩

/-- A path has a segment of two dots, so it may lead out of a directory that is missing. -/
def GoesUp (path : Path) : Prop := ['.', '.'] ∈ names path

/-- Entering names that are no two dots leads further down only. -/
theorem enterAll_suffix {disk : Disk} {entered : List (List Char)} {here last : Location}
    (down : ['.', '.'] ∉ entered) (reached : disk.enterAll here entered = .ok last) :
    here <:+ last := by
  induction entered generalizing here with
  | nil =>
    have same : here = last := by simpa [Disk.enterAll] using reached
    exact same ▸ List.suffix_refl here
  | cons name rest inductionHypothesis =>
    simp only [Disk.enterAll] at reached
    cases step : disk.enter here name with
    | error problem => simp [step] at reached
    | ok next =>
      rw [step] at reached
      have further := inductionHypothesis (fun member => down (List.mem_cons_of_mem _ member)) reached
      by_cases dot : name = ['.']
      · have same : here = next := by simpa [Disk.enter, dot] using step
        exact same ▸ further
      · have dots : name ≠ ['.', '.'] := fun same => down (same ▸ List.mem_cons_self)
        obtain ⟨_, _, same⟩ := (enter_name_eq_ok_iff disk here next dot dots).mp step
        exact (List.suffix_cons name here).trans (same ▸ further)

/-- Names that are no two dots can be entered wherever the directory they lead to, and all
directories above it, are there. -/
theorem enterAll_of_suffixes {before after : Disk} {entered : List (List Char)}
    {here last : Location} (down : ['.', '.'] ∉ entered)
    (reached : after.enterAll here entered = .ok last)
    (there : ∀ above, above <:+ last → before.HasDirectory above) :
    before.enterAll here entered = .ok last := by
  induction entered generalizing here with
  | nil => exact reached
  | cons name rest inductionHypothesis =>
    simp only [Disk.enterAll] at reached ⊢
    have downRest : ['.', '.'] ∉ rest := fun member => down (List.mem_cons_of_mem _ member)
    cases step : after.enter here name with
    | error problem => simp [step] at reached
    | ok next =>
      rw [step] at reached
      have stepBefore : before.enter here name = .ok next := by
        by_cases dot : name = ['.']
        · simpa [Disk.enter, dot] using step
        · have dots : name ≠ ['.', '.'] := fun same => down (same ▸ List.mem_cons_self)
          obtain ⟨short, _, same⟩ := (enter_name_eq_ok_iff after here next dot dots).mp step
          have below : next <:+ last := enterAll_suffix downRest reached
          exact (enter_name_eq_ok_iff before here next dot dots).mpr
            ⟨short, same ▸ there next below, same⟩
      rw [stepBefore]
      exact inductionHypothesis downRest reached

/-- A path that never goes up leads to whatever file it comes to lead to. -/
theorem WellFormed.leadsTo_of_present {before after : Disk} (wellFormed : before.WellFormed)
    (sameStart : after.start = before.start) {path : Path} (down : ¬ GoesUp path)
    {location : Location} (leads : after.LeadsTo path location)
    (present : before.node? location ≠ none) : before.LeadsTo path location := by
  obtain ⟨directory, name, rfl, followed, short⟩ := leads
  have startSame : after.startOf path = before.startOf path := by simp [startOf, sameStart]
  obtain ⟨followable, ⟨_, impossible⟩ | ⟨last, reached, isLast, entered, ending⟩⟩ :=
    (follow_eq_ok_iff after path _).mp followed
  · cases impossible
  · have plain : last ≠ ['.'] ∧ last ≠ ['.', '.'] := by
      refine ⟨fun dot => ?_, fun dots => ?_⟩
      · rw [if_pos dot] at ending
        cases ending
      · rw [if_neg (by simp [dots]), if_pos dots] at ending
        cases ending
    have endingSame := ending
    rw [if_neg plain.1, if_neg plain.2] at endingSame
    obtain ⟨rfl, rfl, _⟩ := Ending.name.inj endingSame
    have downDirectory : ['.', '.'] ∉ (names path).dropLast :=
      fun member => down (List.dropLast_subset _ member)
    have enteredBefore : before.enterAll (before.startOf path) (names path).dropLast =
        .ok directory := by
      rw [← startSame]
      exact enterAll_of_suffixes downDirectory entered
        fun above higher => wellFormed.hasDirectory_of_suffix present higher
    exact ⟨directory, name, rfl, (follow_eq_ok_iff before path _).mpr
      ⟨followable, .inr ⟨name, directory, isLast, enteredBefore, ending⟩⟩, short⟩

end DashboardTools.Disk
