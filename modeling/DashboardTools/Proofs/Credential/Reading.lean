import DashboardTools.Proofs.Credential.Saving

/-!
# What is read after saving and clearing

A save that succeeds leaves its text to be read. A save that fails leaves what was read before; it
can bring to light a file that was there all the time, when the path goes up again from a directory
that the save made. After clearing there is nothing to be read.
-/

namespace DashboardTools.Credential

open DashboardTools.Disk
open DashboardTools.Text

variable {disk made after : Disk} {temporary path : Path} {bytes : List UInt8}

/-- However a save ends, the disk it leaves is well-formed. -/
theorem SaveEnding.wellFormed (wellFormed : made.WellFormed) {result : Except Problem Unit}
    (ending : SaveEnding temporary path bytes made after result) : after.WellFormed := by
  cases ending with
  | saved leadsBeside leads freeBeside free emptied written =>
    have between := wellFormed.emptied emptied freeBeside
    have into := (emptied.keepsDirectories freeBeside).directory _
      (wellFormed.hasDirectory_of_leadsTo leads)
    exact between.written written into
      fun there => free (emptied.keepsDirectoriesBack.directory _ there)
  | unprepared same => exact same ▸ wellFormed
  | refused same occupied => exact same ▸ wellFormed
  | withdrawn leadsBeside freeBeside occupied emptied => exact wellFormed.emptied emptied freeBeside

/-- However a save ends, every directory that stood after the preparation still stands. -/
theorem SaveEnding.keepsDirectories {result : Except Problem Unit}
    (ending : SaveEnding temporary path bytes made after result) : made.KeepsDirectories after := by
  cases ending with
  | saved leadsBeside leads freeBeside free emptied written =>
    have freeBetween := fun there => free (emptied.keepsDirectoriesBack.directory _ there)
    exact (emptied.keepsDirectories freeBeside).trans (written.keepsDirectories freeBetween)
  | unprepared same => exact same ▸ .refl made
  | refused same occupied => exact same ▸ .refl made
  | withdrawn leadsBeside freeBeside occupied emptied => exact emptied.keepsDirectories freeBeside

/-- What is on the disk at the end was there before or was saved. -/
theorem SaveEnding.bytesAt? {result : Except Problem Unit} {location : Location}
    {held : List UInt8} (ending : SaveEnding temporary path bytes made after result)
    (there : after.bytesAt? location = some held) :
    made.bytesAt? location = some held ∨ (result = .ok () ∧ held = bytes) := by
  cases ending with
  | saved leadsBeside leads freeBeside free emptied written =>
    rcases written.bytesAt? there with between | rfl
    · exact .inl (emptied.bytesAt? between)
    · exact .inr ⟨rfl, rfl⟩
  | unprepared same => exact .inl (same ▸ there)
  | refused same occupied => exact .inl (same ▸ there)
  | withdrawn leadsBeside freeBeside occupied emptied => exact .inl (emptied.bytesAt? there)

/-- What was saved is read: after a save that succeeded, the path gives exactly its bytes. -/
theorem SaveEnding.read_saved (wellFormed : made.WellFormed)
    (ending : SaveEnding temporary path bytes made after (.ok ())) :
    after.read path = .ok bytes := by
  have keeps := ending.keepsDirectories
  rw [(ending.wellFormed wellFormed).read_eq_ok_iff]
  cases ending with
  | @saved _ location _ leadsBeside leads freeBeside free emptied written =>
    refine ⟨location, ?_, (bytesAt?_eq_some_iff after location bytes).mpr ⟨_, written.here⟩⟩
    exact leads.kept keeps

/-- After a failure the same is read as when the directories had been made. -/
theorem SaveEnding.read_failed_iff (wellFormed : made.WellFormed) {problem : Problem}
    (ending : SaveEnding temporary path bytes made after (.error problem)) (held : List UInt8) :
    after.read path = .ok held ↔ made.read path = .ok held := by
  have afterWellFormed := ending.wellFormed wellFormed
  cases ending with
  | unprepared same => rw [same]
  | refused same occupied => rw [same]
  | withdrawn leadsBeside freeBeside occupied emptied =>
    -- neither disk has a file where the path leads
    have noFile (location : Location) (leads : made.LeadsTo path location) :
        made.bytesAt? location ≠ some held := by
      intro there
      obtain ⟨mode, file⟩ := (bytesAt?_eq_some_iff made location held).mp there
      exact not_hasDirectory_of_file file (occupied location leads)
    rw [wellFormed.read_eq_ok_iff, afterWellFormed.read_eq_ok_iff]
    constructor
    · rintro ⟨location, leads, there⟩
      have leadsMade := leads.kept emptied.keepsDirectoriesBack
      obtain ⟨mode, file⟩ := (bytesAt?_eq_some_iff after location held).mp there
      have stays := (emptied.keepsDirectories freeBeside).directory _ (occupied location leadsMade)
      exact absurd stays (not_hasDirectory_of_file file)
    · rintro ⟨location, leads, there⟩
      exact absurd there (noFile location leads)

/-- Making directories takes nothing away that was read. It can only let paths lead further. -/
theorem read_of_grown {mode : Nat} (wellFormed : disk.WellFormed) (madeWellFormed : made.WellFormed)
    (grown : Grown mode disk made) {held : List UInt8} (readable : disk.read path = .ok held) :
    made.read path = .ok held := by
  obtain ⟨location, leads, there⟩ := (wellFormed.read_eq_ok_iff path held).mp readable
  obtain ⟨fileMode, file⟩ := (bytesAt?_eq_some_iff disk location held).mp there
  exact (madeWellFormed.read_eq_ok_iff path held).mpr ⟨location, leads.kept grown.keepsDirectories,
    (bytesAt?_eq_some_iff made location held).mpr ⟨fileMode, grown.kept _ _ file⟩⟩

/-- Making directories brings only such files to light that were there before, and none through a
path that never goes up. -/
theorem read_before_grown {mode : Nat} (wellFormed : disk.WellFormed)
    (madeWellFormed : made.WellFormed) (grown : Grown mode disk made) {held : List UInt8}
    (readable : made.read path = .ok held) :
    (∃ location, made.LeadsTo path location ∧ disk.bytesAt? location = some held) ∧
      (¬ GoesUp path → disk.read path = .ok held) := by
  obtain ⟨location, leads, there⟩ := (madeWellFormed.read_eq_ok_iff path held).mp readable
  obtain ⟨fileMode, file⟩ := (bytesAt?_eq_some_iff made location held).mp there
  have fileBefore := (grown.file_iff location fileMode held).mp file
  have bytesBefore := (bytesAt?_eq_some_iff disk location held).mpr ⟨fileMode, fileBefore⟩
  refine ⟨⟨location, leads, bytesBefore⟩, fun down => ?_⟩
  have leadsBefore := wellFormed.leadsTo_of_present grown.start down leads (by simp [fileBefore])
  exact (wellFormed.read_eq_ok_iff path held).mpr ⟨location, leadsBefore, bytesBefore⟩

/-- The disk that a save leaves, and its answer, where nothing but the disk itself refuses a
step. -/
def saveOn (process : Nat) (path : Path) (credential : Credential) (disk : Disk) :
    Except Problem Unit × Disk := (save process path credential).run Disk.handle disk

variable {process : Nat} {credential : Credential}

/-- Saving keeps a disk well-formed, whether it succeeds or fails. -/
theorem saveOn_wellFormed (wellFormed : disk.WellFormed) :
    (saveOn process path credential disk).2.WellFormed := by
  obtain ⟨made, madeWellFormed, _, _, ending⟩ := save_ending wellFormed process path credential
  exact ending.wellFormed madeWellFormed

/-- The text of a credential is read once the credential is saved. -/
theorem read_saveOn (wellFormed : disk.WellFormed)
    (saved : (saveOn process path credential disk).1 = .ok ()) :
    (saveOn process path credential disk).2.read path =
      .ok (Utf8.encode credential.text.toList) := by
  obtain ⟨made, madeWellFormed, _, _, ending⟩ := save_ending wellFormed process path credential
  change SaveEnding _ _ _ _ (saveOn process path credential disk).2
    (saveOn process path credential disk).1 at ending
  rw [saved] at ending
  exact ending.read_saved madeWellFormed

/-- What was read before a save that failed is read after it. -/
theorem read_saveOn_failed (wellFormed : disk.WellFormed) {problem : Problem}
    (failed : (saveOn process path credential disk).1 = .error problem) {held : List UInt8}
    (readable : disk.read path = .ok held) :
    (saveOn process path credential disk).2.read path = .ok held := by
  obtain ⟨made, madeWellFormed, grown, _, ending⟩ := save_ending wellFormed process path credential
  change SaveEnding _ _ _ _ (saveOn process path credential disk).2
    (saveOn process path credential disk).1 at ending
  rw [failed] at ending
  exact (ending.read_failed_iff madeWellFormed held).mpr
    (read_of_grown wellFormed madeWellFormed grown readable)

/-- A save can make a path lead where it did not lead before: the path goes up, and its directory
is not there. -/
def CanReveal (disk : Disk) (path : Path) : Prop := GoesUp path ∧ ¬ HasParent disk path

/-- What is read after a save that failed was on the disk before, and was read before unless the
save could make the path lead somewhere else. -/
theorem read_before_saveOn_failed (wellFormed : disk.WellFormed) {problem : Problem}
    (failed : (saveOn process path credential disk).1 = .error problem) {held : List UInt8}
    (readable : (saveOn process path credential disk).2.read path = .ok held) :
    (∃ location, (saveOn process path credential disk).2.LeadsTo path location ∧
        disk.bytesAt? location = some held) ∧
      (¬ CanReveal disk path → disk.read path = .ok held) := by
  obtain ⟨made, madeWellFormed, grown, parent, ending⟩ :=
    save_ending wellFormed process path credential
  change SaveEnding _ _ _ _ (saveOn process path credential disk).2
    (saveOn process path credential disk).1 at ending
  have afterWellFormed := ending.wellFormed madeWellFormed
  rw [failed] at ending
  have readableMade := (ending.read_failed_iff madeWellFormed held).mp readable
  obtain ⟨⟨location, leadsMade, there⟩, down⟩ :=
    read_before_grown wellFormed madeWellFormed grown readableMade
  obtain ⟨reached, leads, _⟩ := (afterWellFormed.read_eq_ok_iff path held).mp readable
  have sameLocation : reached = location := by
    cases ending with
    | unprepared same =>
      rw [same] at leads
      exact leads.unique leadsMade
    | refused same occupied =>
      rw [same] at leads
      exact leads.unique leadsMade
    | withdrawn leadsBeside freeBeside occupied emptied =>
      exact (leads.kept emptied.keepsDirectoriesBack).unique leadsMade
  refine ⟨⟨reached, leads, sameLocation ▸ there⟩, fun settled => ?_⟩
  by_cases up : GoesUp path
  · have hasParent : HasParent disk path :=
      Classical.not_not.mp fun missing => settled ⟨up, missing⟩
    rw [← parent hasParent]
    exact readableMade
  · exact down up

/-- Saving keeps every directory of a well-formed disk. Only files are created, replaced or
removed. -/
theorem saveOn_keepsDirectories (wellFormed : disk.WellFormed) :
    disk.KeepsDirectories (saveOn process path credential disk).2 := by
  obtain ⟨made, madeWellFormed, grown, _, ending⟩ := save_ending wellFormed process path credential
  exact grown.keepsDirectories.trans ending.keepsDirectories

/-- A save puts no bytes on a disk but those of its credential, and those only if it succeeds. -/
theorem bytesAt?_of_saveOn (wellFormed : disk.WellFormed) {location : Location} {held : List UInt8}
    (there : (saveOn process path credential disk).2.bytesAt? location = some held) :
    disk.bytesAt? location = some held ∨
      ((saveOn process path credential disk).1 = .ok () ∧
        held = Utf8.encode credential.text.toList) := by
  obtain ⟨made, madeWellFormed, grown, _, ending⟩ := save_ending wellFormed process path credential
  rcases ending.bytesAt? there with before | new
  · obtain ⟨mode, file⟩ := (bytesAt?_eq_some_iff made location held).mp before
    exact .inl ((bytesAt?_eq_some_iff disk location held).mpr
      ⟨mode, (grown.file_iff location mode held).mp file⟩)
  · exact .inr new

/-- Clearing keeps a disk well-formed, since it removes no directory. -/
theorem clear_wellFormed (wellFormed : disk.WellFormed) (path : Path) :
    (clear disk path).WellFormed := by
  unfold clear
  split
  next cleared removed =>
    obtain ⟨location, mode, bytes, ⟨directory, name, rfl, _⟩, file, rfl⟩ :=
      remove_eq_ok_iff.mp removed
    exact wellFormed.emptied (emptied_erase disk name directory) (not_hasDirectory_of_file file)
  next => exact wellFormed

/-- Clearing keeps every directory, since it removes at most one file. -/
theorem clear_keepsDirectories (disk : Disk) (path : Path) :
    disk.KeepsDirectories (clear disk path) := by
  unfold clear
  split
  next cleared removed =>
    obtain ⟨location, mode, bytes, ⟨directory, name, rfl, _⟩, file, rfl⟩ :=
      remove_eq_ok_iff.mp removed
    exact (emptied_erase disk name directory).keepsDirectories (not_hasDirectory_of_file file)
  next => exact .refl disk

/-- Clearing puts nothing on a disk: bytes that are there afterwards were there before, at the same
place. -/
theorem bytesAt?_of_clear {location : Location} {held : List UInt8}
    (there : (clear disk path).bytesAt? location = some held) :
    disk.bytesAt? location = some held := by
  unfold clear at there
  split at there
  next cleared removed =>
    obtain ⟨place, mode, bytes, ⟨directory, name, rfl, _⟩, file, rfl⟩ :=
      remove_eq_ok_iff.mp removed
    exact (emptied_erase disk name directory).bytesAt? there
  next => exact there

/-- After clearing, the path leads to no file, whether or not there was one. -/
theorem bytesAt?_clear {location : Location} (leads : (clear disk path).LeadsTo path location) :
    (clear disk path).bytesAt? location = none := by
  unfold clear at leads ⊢
  cases removed : disk.remove path with
  | ok cleared =>
    obtain ⟨place, mode, bytes, leadsBefore, file, rfl⟩ := remove_eq_ok_iff.mp removed
    simp only [removed] at leads ⊢
    obtain ⟨directory, name, rfl, followed, short⟩ := leadsBefore
    have leadsBefore : disk.LeadsTo path (name :: directory) :=
      ⟨directory, name, rfl, followed, short⟩
    have emptied := emptied_erase disk name directory
    have same : location = name :: directory :=
      (leads.kept emptied.keepsDirectoriesBack).unique leadsBefore
    rw [same, bytesAt?, node?_erase, if_neg (List.cons_ne_nil _ _), if_pos rfl]
  | error problem =>
    simp only [removed] at leads ⊢
    cases held : disk.bytesAt? location with
    | none => rfl
    | some bytes =>
      obtain ⟨mode, file⟩ := (bytesAt?_eq_some_iff disk location bytes).mp held
      have works := remove_eq_ok_iff.mpr ⟨location, mode, bytes, leads, file, rfl⟩
      rw [removed] at works
      cases works

/-- After clearing nothing is read from the path, whatever it led to before. -/
theorem read_clear (wellFormed : disk.WellFormed) (path : Path) (held : List UInt8) :
    (clear disk path).read path ≠ .ok held := by
  intro readable
  obtain ⟨location, leads, there⟩ :=
    ((clear_wellFormed wellFormed path).read_eq_ok_iff path held).mp readable
  rw [bytesAt?_clear leads] at there
  cases there

/-- A file that was read is gone after clearing, so reading it again finds nothing. -/
theorem read_clear_of_read (wellFormed : disk.WellFormed) {held : List UInt8}
    (readable : disk.read path = .ok held) : (clear disk path).read path = .error .notFound := by
  obtain ⟨_, ⟨directory, name, rfl, followed, short⟩, there⟩ :=
    (wellFormed.read_eq_ok_iff path held).mp readable
  obtain ⟨mode, file⟩ := (bytesAt?_eq_some_iff disk _ held).mp there
  have leads : disk.LeadsTo path (name :: directory) := ⟨directory, name, rfl, followed, short⟩
  have removed : disk.remove path = .ok (disk.erase (name :: directory)) :=
    remove_eq_ok_iff.mpr ⟨_, mode, held, leads, file, rfl⟩
  have emptied := emptied_erase disk name directory
  have keeps := emptied.keepsDirectories (not_hasDirectory_of_file file)
  have child := (child?_eq_ok_iff (disk.erase (name :: directory)) directory name none).mpr
    ⟨short, by rw [emptied.node, if_pos rfl]⟩
  have cleared : clear disk path = disk.erase (name :: directory) := by
    simp only [clear, removed]
  rw [cleared]
  simp [Disk.read, Disk.find, keeps.follow followed, child]

/-- Clearing twice is clearing once. The second time there is nothing left to remove. -/
theorem clear_clear (disk : Disk) (path : Path) :
    clear (clear disk path) path = clear disk path := by
  have nothing : ∀ next, (clear disk path).remove path ≠ .ok next := by
    intro next removed
    obtain ⟨location, mode, bytes, leads, file, _⟩ := remove_eq_ok_iff.mp removed
    have gone := bytesAt?_clear leads
    rw [(bytesAt?_eq_some_iff _ location bytes).mpr ⟨mode, file⟩] at gone
    cases gone
  rw [clear.eq_def (clear disk path) path]
  cases removed : (clear disk path).remove path with
  | ok next => exact absurd removed (nothing next)
  | error problem => rfl

/-- Loading looks at nothing but what is read, so disks that read alike at the path load alike. -/
theorem load?_congr {first second : Disk}
    (same : ∀ held, first.read path = .ok held ↔ second.read path = .ok held) :
    load? first path = load? second path := by
  unfold load?
  cases one : first.read path with
  | ok held => rw [(same held).mp one]
  | error problem =>
    cases other : second.read path with
    | ok held =>
      rw [(same held).mpr other] at one
      cases one
    | error problem => rfl

/-- Where the file can be read, loading answers what its bytes decode to and parse as. Bytes that
are not text are no record. -/
theorem load?_of_read {held : List UInt8} (readable : disk.read path = .ok held) :
    load? disk path = (Utf8.decode? held).bind parse? := by
  simp only [load?, readable]

/-- A credential that is loaded is decoded from a text that is read. -/
theorem read_of_load? (loaded : load? disk path = some credential) :
    ∃ held, disk.read path = .ok held ∧ (Utf8.decode? held).bind parse? = some credential := by
  unfold load? at loaded
  split at loaded
  next => cases loaded
  next held readable => exact ⟨held, readable, loaded⟩

/-- After clearing a path nothing is loaded from it. Either the file is gone or it never could be
read. -/
theorem load?_clear (wellFormed : disk.WellFormed) (path : Path) :
    load? (clear disk path) path = none := by
  unfold load?
  cases readable : (clear disk path).read path with
  | error problem => rfl
  | ok held => exact absurd readable (read_clear wellFormed path held)

end DashboardTools.Credential
