import DashboardTools.Credential.Store
import DashboardTools.Proofs.Disk.Changes
import DashboardTools.Proofs.Program.Effects

/-!
# What a save does to a disk

A save first makes the directories that are missing, which changes no file. It then either leaves
the credential at its place and nothing beside it, or fails; a failure leaves all files as they
were, but for one in the place of the file beside it, and it happens only where no file could be
reached, or before any file was touched.
-/

namespace DashboardTools.Credential

open DashboardTools.Disk
open DashboardTools.Text

/-- The operations that look at a disk or make a directory with these access bits. -/
def MakesDirectories (mode : Nat) : {γ : Type} → Operation γ → Prop
  | _, .isThere _ => True
  | _, .isDirectory _ => True
  | _, .change (.makeDirectory _ made) => made = mode
  | _, .change _ => False

/-- Making directories performs nothing but the making of directories with the given mode. -/
theorem makeDirectories_uses (mode levels : Nat) (path : Path) :
    (makeDirectories mode levels path).Uses (MakesDirectories mode) := by
  have make (path : Path) :
      (FileProgram.change (.makeDirectory path mode)).Uses (MakesDirectories mode) := .ask rfl
  have orThere (path : Path) (problem : Problem) : Program.Uses (MakesDirectories mode)
      (do if ← Program.request (.isDirectory path) then pure (.ok ()) else pure (.error problem) :
        FileProgram (Except Problem Unit)) :=
    .sequence (.ask trivial) fun there => by cases there <;> exact .value _
  induction levels generalizing path with
  | zero => exact .value _
  | succ levels inductionHypothesis =>
    unfold makeDirectories
    split
    · exact .value _
    · refine .sequence (make path) fun made => ?_
      split
      · exact .value _
      · split
        · exact .value _
        · refine .sequence (inductionHypothesis _) fun above => ?_
          split
          · exact .value _
          · refine .sequence (make path) fun made => ?_
            split
            · exact .value _
            · exact orThere path _
      · exact orThere path _

/-- Ensuring a directory performs nothing but the making of directories that only their owner may
enter. -/
theorem ensureDirectory_uses (path : Path) :
    (ensureDirectory path).Uses (MakesDirectories directoryMode) := by
  unfold ensureDirectory
  split
  · exact .value _
  · split
    · exact .value _
    · refine .sequence (.ask trivial) fun there => ?_
      split
      · exact .value _
      · exact makeDirectories_uses _ _ _

/-- Looking at a disk and making directories makes a well-formed disk grow. -/
theorem grown_of_makesDirectories (mode : Nat) {γ : Type} (operation : Operation γ) (disk : Disk)
    (makes : MakesDirectories mode operation) (wellFormed : disk.WellFormed) :
    (Disk.handle γ operation disk).2.WellFormed ∧
      Grown mode disk (Disk.handle γ operation disk).2 := by
  cases operation with
  | isThere path => exact ⟨wellFormed, .refl mode disk⟩
  | isDirectory path => exact ⟨wellFormed, .refl mode disk⟩
  | change change =>
    cases change with
    | makeDirectory path made =>
      obtain rfl : made = mode := makes
      simp only [Disk.handle, Disk.apply]
      cases result : disk.makeDirectory path made with
      | error problem => exact ⟨wellFormed, .refl made disk⟩
      | ok next =>
        obtain ⟨directory, name, slash, followed, _, empty, rfl⟩ := makeDirectory_ok result
        exact wellFormed.grown_put (wellFormed.hasDirectory_name followed) empty made
    | create path mode => exact False.elim makes
    | append path bytes => exact False.elim makes
    | rename source target => exact False.elim makes
    | remove path => exact False.elim makes
    | setMode path mode => exact False.elim makes

/-- Programs that only make directories make a well-formed disk grow. -/
theorem run_grown {α : Type} {mode : Nat} {program : FileProgram α}
    (uses : program.Uses (MakesDirectories mode)) {disk : Disk} (wellFormed : disk.WellFormed) :
    (program.run Disk.handle disk).2.WellFormed ∧
      Grown mode disk (program.run Disk.handle disk).2 := by
  have related := uses.run_related Disk.handle
    (fun before after => before.WellFormed → after.WellFormed ∧ Grown mode before after)
    (fun disk wellFormed => ⟨wellFormed, .refl mode disk⟩)
    (fun first second third earlier later wellFormed =>
      have ⟨middle, grown⟩ := earlier wellFormed
      have ⟨last, further⟩ := later middle
      ⟨last, grown.trans further⟩)
    (fun γ operation disk makes => grown_of_makesDirectories mode operation disk makes)
  exact related disk wellFormed

/-- The directory of a path is there, or the path names none. -/
def HasParent (disk : Disk) (path : Path) : Prop :=
  ∀ parent, path.parent? = some parent → parent.isEmpty = false → disk.isThere parent = true

/-- Where the directory is there, none is made, and ensuring it changes nothing. -/
theorem ensureDirectory_of_hasParent {disk : Disk} {path : Path} (there : HasParent disk path) :
    (ensureDirectory path).run Disk.handle disk = (.ok (), disk) := by
  unfold ensureDirectory
  split
  · rfl
  next parent named =>
    split
    · rfl
    next filled =>
      have found := there parent named (Bool.eq_false_iff.mpr filled)
      simp [Disk.handle, found]

/-- All bytes go to the end of the file that a path leads to. -/
theorem appendAll_run {disk : Disk} {path : Path} {location : Location}
    (leads : disk.LeadsTo path location) {mode : Nat} {old : List UInt8}
    (found : disk.node? location = some (.file mode old)) (bytes : List UInt8) :
    ∃ written, (appendAll path bytes).run Disk.handle disk = (.ok (), written) ∧
      Written disk written location mode (old ++ bytes) := by
  induction bytes generalizing disk old with
  | nil =>
    refine ⟨disk, rfl, rfl, fun other => ?_⟩
    split
    next same => rw [same, found, List.append_nil]
    next => rfl
  | cons byte rest inductionHypothesis =>
    obtain ⟨directory, name, rfl, followed, short⟩ := leads
    have leads : disk.LeadsTo path (name :: directory) := ⟨directory, name, rfl, followed, short⟩
    have free := not_hasDirectory_of_file found
    have step := append_of_leadsTo leads found [byte]
    have first := written_put disk name directory mode (old ++ [byte])
    obtain ⟨written, run, more⟩ := inductionHypothesis
      (leads.kept (first.keepsDirectories free)) first.here
    refine ⟨written, ?_, ?_⟩
    · simp only [appendAll, FileProgram.change, Program.run_sequence, Program.run_request,
        Disk.handle, Disk.apply, step]
      exact run
    · have all := first.again more
      rwa [List.append_assoc, List.singleton_append] at all

/-- How a save ends, on a disk on which the missing directories have been made. -/
inductive SaveEnding (temporary path : Path) (bytes : List UInt8) (made after : Disk) :
    Except Problem Unit → Prop where
  /-- The bytes are in place and the file beside is gone. -/
  | saved {beside location : Location} {between : Disk}
      (leadsBeside : made.LeadsTo temporary beside) (leads : made.LeadsTo path location)
      (freeBeside : ¬ made.HasDirectory beside) (free : ¬ made.HasDirectory location)
      (emptied : Emptied made between beside)
      (written : Written between after location fileMode bytes) :
      SaveEnding temporary path bytes made after (.ok ())
  /-- The directories could not be made. -/
  | unprepared {problem : Problem} (same : after = made) :
      SaveEnding temporary path bytes made after (.error problem)
  /-- The file beside could not be created. -/
  | refused {problem : Problem} (same : after = made)
      (occupied : ∀ beside, made.LeadsTo temporary beside → made.HasDirectory beside) :
      SaveEnding temporary path bytes made after (.error problem)
  /-- The file beside could not be moved, because the path leads to no place of a file. -/
  | withdrawn {problem : Problem} {beside : Location}
      (leadsBeside : made.LeadsTo temporary beside) (freeBeside : ¬ made.HasDirectory beside)
      (occupied : ∀ location, made.LeadsTo path location → made.HasDirectory location)
      (emptied : Emptied made after beside) :
      SaveEnding temporary path bytes made after (.error problem)

/-- What a save does once the directories are made: it puts the bytes in the place of the file, and
takes the file beside away if that fails. -/
def replaceOrTidy (temporary path : Path) (bytes : List UInt8) :
    FileProgram (Except Problem Unit) := do
  match ← replace temporary path bytes with
  | .error problem => do
    let _ ← FileProgram.change (.remove temporary)
    pure (.error problem)
  | .ok () => FileProgram.change (.setMode path fileMode)

section Replacing

variable {made : Disk} {temporary path : Path} {beside : Location}

/-- Where the file beside has a place, it is created there and takes all bytes. -/
theorem fill_beside (leadsBeside : made.LeadsTo temporary beside)
    (freeBeside : ¬ made.HasDirectory beside) (bytes : List UInt8) :
    ∃ opened filled mode, made.create temporary fileMode = .ok opened ∧
      (appendAll temporary bytes).run Disk.handle opened = (.ok (), filled) ∧
      Written made filled beside mode bytes := by
  obtain ⟨mode, opened, created, empty⟩ := create_of_leadsTo leadsBeside freeBeside fileMode
  obtain ⟨filled, appended, more⟩ := appendAll_run
    (leadsBeside.kept (empty.keepsDirectories freeBeside)) empty.here bytes
  exact ⟨opened, filled, mode, created, appended, empty.again more⟩

/-- Where the file beside and the credential have a place each, the bytes end in the second. -/
theorem replaceOrTidy_saved (leadsBeside : made.LeadsTo temporary beside)
    (freeBeside : ¬ made.HasDirectory beside) {location : Location}
    (leads : made.LeadsTo path location) (free : ¬ made.HasDirectory location)
    (bytes : List UInt8) :
    SaveEnding temporary path bytes made
      ((replaceOrTidy temporary path bytes).run Disk.handle made).2
      ((replaceOrTidy temporary path bytes).run Disk.handle made).1 := by
  obtain ⟨opened, filled, mode, created, appended, whole⟩ :=
    fill_beside leadsBeside freeBeside bytes
  have keeps := whole.keepsDirectories freeBeside
  have freeFilled : ¬ filled.HasDirectory location :=
    fun there => free (whole.keepsDirectoriesBack.directory _ there)
  have renamed := rename_of_leadsTo (leadsBeside.kept keeps) (leads.kept keeps) whole.here freeFilled
  obtain ⟨directoryBeside, nameBeside, rfl, _⟩ := id leadsBeside
  obtain ⟨directory, name, rfl, _⟩ := id leads
  have emptied := whole.emptied (emptied_erase filled nameBeside directoryBeside)
  have moved := written_put (filled.erase (nameBeside :: directoryBeside)) name directory mode bytes
  have keepsBetween := emptied.keepsDirectories freeBeside
  have freeBetween : ¬ (filled.erase (nameBeside :: directoryBeside)).HasDirectory
      (name :: directory) := fun there => free (emptied.keepsDirectoriesBack.directory _ there)
  have moded := setMode_of_leadsTo
    (leads.kept (keepsBetween.trans (moved.keepsDirectories freeBetween))) moved.here fileMode
  simp only [replaceOrTidy, replace, FileProgram.change, Program.run_sequence, Program.run_request,
    Disk.handle, Disk.apply, created, appended, renamed, moded]
  exact .saved leadsBeside leads freeBeside free emptied
    (moved.again (written_put _ name directory fileMode bytes))

/-- Where only the file beside has a place, it is taken away again. -/
theorem replaceOrTidy_withdrawn (leadsBeside : made.LeadsTo temporary beside)
    (freeBeside : ¬ made.HasDirectory beside)
    (occupied : ∀ location, made.LeadsTo path location → made.HasDirectory location)
    (bytes : List UInt8) :
    SaveEnding temporary path bytes made
      ((replaceOrTidy temporary path bytes).run Disk.handle made).2
      ((replaceOrTidy temporary path bytes).run Disk.handle made).1 := by
  obtain ⟨opened, filled, mode, created, appended, whole⟩ :=
    fill_beside leadsBeside freeBeside bytes
  have keeps := whole.keepsDirectories freeBeside
  have removed : filled.remove temporary = .ok (filled.erase beside) :=
    remove_eq_ok_iff.mpr ⟨_, mode, bytes, leadsBeside.kept keeps, whole.here, rfl⟩
  obtain ⟨directoryBeside, nameBeside, rfl, _⟩ := id leadsBeside
  have emptied := whole.emptied (emptied_erase filled nameBeside directoryBeside)
  cases renamed : filled.rename temporary path with
  | error problem =>
    simp only [replaceOrTidy, replace, FileProgram.change, Program.run_sequence,
      Program.run_request, Disk.handle, Disk.apply, created, appended, renamed, removed,
      Program.run_pure]
    exact .withdrawn leadsBeside freeBeside occupied emptied
  | ok next =>
    obtain ⟨_, location, _, _, _, _, leads, _, free, _⟩ := rename_ok renamed
    have there := occupied location (leads.kept whole.keepsDirectoriesBack)
    exact absurd (keeps.directory _ there) free

/-- Where the file beside has no place, nothing is written. -/
theorem replaceOrTidy_refused
    (occupied : ∀ beside, made.LeadsTo temporary beside → made.HasDirectory beside)
    (bytes : List UInt8) :
    SaveEnding temporary path bytes made
      ((replaceOrTidy temporary path bytes).run Disk.handle made).2
      ((replaceOrTidy temporary path bytes).run Disk.handle made).1 := by
  cases created : made.create temporary fileMode with
  | ok next =>
    obtain ⟨beside, leads, ⟨empty, _⟩ | ⟨mode, old, file, _⟩⟩ := create_ok created
    · exact absurd (occupied beside leads) (not_hasDirectory_of_none empty)
    · exact absurd (occupied beside leads) (not_hasDirectory_of_file file)
  | error problem =>
    cases removed : made.remove temporary with
    | ok next =>
      obtain ⟨beside, mode, old, leads, file, _⟩ := remove_eq_ok_iff.mp removed
      exact absurd (occupied beside leads) (not_hasDirectory_of_file file)
    | error other =>
      simp only [replaceOrTidy, replace, FileProgram.change, Program.run_sequence,
        Program.run_request, Disk.handle, Disk.apply, created, removed, Program.run_pure]
      exact .refused rfl occupied

/-- On a disk with the directories made, writing the file beside and moving it ends in one of the
ways of a save. Whether it works is decided by two places alone: the file beside has to have one,
and so has the credential. -/
theorem replaceOrTidy_ending (temporary path : Path) (bytes : List UInt8) :
    SaveEnding temporary path bytes made
      ((replaceOrTidy temporary path bytes).run Disk.handle made).2
      ((replaceOrTidy temporary path bytes).run Disk.handle made).1 := by
  have noPlace (toward : Path)
      (absent : ¬ ∃ location, made.LeadsTo toward location ∧ ¬ made.HasDirectory location) :
      ∀ location, made.LeadsTo toward location → made.HasDirectory location :=
    fun location leads => Classical.not_not.mp fun free => absent ⟨location, leads, free⟩
  by_cases room : ∃ beside, made.LeadsTo temporary beside ∧ ¬ made.HasDirectory beside
  · obtain ⟨beside, leadsBeside, freeBeside⟩ := room
    by_cases target : ∃ location, made.LeadsTo path location ∧ ¬ made.HasDirectory location
    · obtain ⟨location, leads, free⟩ := target
      exact replaceOrTidy_saved leadsBeside freeBeside leads free bytes
    · exact replaceOrTidy_withdrawn leadsBeside freeBeside (noPlace path target) bytes
  · exact replaceOrTidy_refused (noPlace temporary room) bytes

end Replacing

/-- What a save does to a well-formed disk: it makes directories that are missing and then ends in
one of four ways. -/
theorem save_ending {disk : Disk} (wellFormed : disk.WellFormed) (process : Nat) (path : Path)
    (credential : Credential) :
    ∃ made : Disk, made.WellFormed ∧ Grown directoryMode disk made ∧
      (HasParent disk path → made = disk) ∧
      SaveEnding (temporaryPath process path) path (Utf8.encode credential.text.toList) made
        ((save process path credential).run Disk.handle disk).2
        ((save process path credential).run Disk.handle disk).1 := by
  obtain ⟨madeWellFormed, grown⟩ := run_grown (ensureDirectory_uses path) wellFormed
  refine ⟨_, madeWellFormed, grown, fun there => by rw [ensureDirectory_of_hasParent there], ?_⟩
  unfold save
  rw [Program.run_sequence]
  cases prepared : ((ensureDirectory path).run Disk.handle disk).1 with
  | error problem => exact .unprepared rfl
  | ok done => exact replaceOrTidy_ending _ path _

end DashboardTools.Credential
