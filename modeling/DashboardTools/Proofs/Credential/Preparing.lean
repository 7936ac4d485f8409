import DashboardTools.Proofs.Credential.Beside
import DashboardTools.Proofs.Credential.Saving
import DashboardTools.Proofs.Disk.Systems

/-!
# Making the directory of a credential

Before a credential is written, the directories on the way to it are made, each for the owner alone.
This holds of every file system, also of one that refuses to make some of them: what has been made
by then stays, and nothing else changes. Where the directory of the path could not be made, the file
beside has no place, so no such file is there.
-/

namespace DashboardTools.Credential

open DashboardTools.Disk

/-- A directory that one comes through on the way to the directory of a path. -/
def OnTheWay (disk : Disk) (path : Path) (location : Location) : Prop :=
  ∃ parent, path.parent? = some parent ∧
    ∃ passed, passed <+: names parent ∧ disk.enterAll (disk.startOf path) passed = .ok location

/-- What is on the way to a path stays on the way to it while directories are kept. -/
theorem OnTheWay.kept {before after : Disk} {path : Path} {location : Location}
    (onTheWay : OnTheWay before path location) (keeps : before.KeepsDirectories after) :
    OnTheWay after path location := by
  obtain ⟨parent, named, passed, begins, reached⟩ := onTheWay
  have sameStart : after.startOf path = before.startOf path := by simp [startOf, keeps.start]
  exact ⟨parent, named, passed, begins, sameStart ▸ keeps.enterAll reached⟩

/-- One disk is the other with directories made that were missing on the way to a path; none is made
if the directory of the path is there. -/
structure Prepared (before made : Disk) (path : Path) : Prop where
  wellFormed : made.WellFormed
  grown : Grown directoryMode before made
  settled : HasParent before path → made = before
  onTheWay : ∀ location, before.node? location = none → made.node? location ≠ none →
    OnTheWay made path location

/-- A well-formed disk is prepared from itself: no directory has been added yet. -/
theorem Prepared.refl {disk : Disk} (wellFormed : disk.WellFormed) (path : Path) :
    Prepared disk disk path :=
  ⟨wellFormed, .refl _ disk, fun _ => rfl, fun _ absent there => absurd absent there⟩

/-- A path is the one whose directory is made, or a beginning of it that is on the way. -/
def Toward (path toward : Path) : Prop :=
  ∃ parent, path.parent? = some parent ∧ Begins toward parent

/-- A path that is on the way to the directory of another begins that other path, unless it is
empty. -/
theorem Toward.begins {path toward : Path} (isToward : Toward path toward) (filled : toward ≠ []) :
    Begins toward path := by
  obtain ⟨parent, named, begins⟩ := isToward
  have parentFilled : parent ≠ [] := by
    rintro rfl
    exact filled (List.prefix_nil.mp begins.text)
  exact begins.trans (begins_of_parent? named parentFilled)

/-- The parent of a path on the way is on the way as well, unless it is empty. -/
theorem Toward.parent? {path toward above : Path} (isToward : Toward path toward)
    (named : toward.parent? = some above) (filled : above ≠ []) : Toward path above := by
  obtain ⟨parent, isParent, begins⟩ := isToward
  exact ⟨parent, isParent, (begins_of_parent? named filled).trans begins⟩

variable {before made next : Disk} {path toward : Path}

/-- Making one more directory on the way keeps a disk prepared. -/
theorem Prepared.makeDirectory (prepared : Prepared before made path)
    (missing : ¬ HasParent before path) (isToward : Toward path toward) (filled : toward ≠ [])
    (makes : made.makeDirectory toward directoryMode = .ok next) : Prepared before next path := by
  obtain ⟨directory, name, slash, followed, short, empty, rfl⟩ := makeDirectory_ok makes
  have into := prepared.wellFormed.hasDirectory_name followed
  obtain ⟨nextWellFormed, grown⟩ := prepared.wellFormed.grown_put into empty directoryMode
  have keeps := grown.keepsDirectories
  refine ⟨nextWellFormed, prepared.grown.trans grown, fun there => absurd there missing,
    fun location absent there => ?_⟩
  by_cases new : location = name :: directory
  · -- the directory that was just made is where the path leads
    have entered := enterAll_names (keeps.follow followed) short
      ⟨_, node?_put_same made name directory _⟩
    rw [startOf, (isToward.begins filled).rooted] at entered
    obtain ⟨parent, isParent, begins⟩ := isToward
    exact ⟨parent, isParent, names toward, begins.names, new ▸ entered⟩
  · rw [node?_put_other made _ new] at there
    exact (prepared.onTheWay location absent there).kept keeps

section Marking

variable {State Mark : Type} {system : FileSystem State}
variable {fits : Mark → Disk → Prop} {follows : Mark × Disk → Mark × Disk → Prop}
variable {mark : Mark} {state : State} {start : Disk}

/-- How making a directory ends: the disk is prepared, and if there is a problem, nothing was made
or the directory is still missing. -/
def MakingEnds (before start : Disk) (path toward : Path) (mark : Mark)
    (result : Except Problem Unit) (newMark : Mark) (disk : Disk) : Prop :=
  newMark = mark ∧ Prepared before disk path ∧ ∀ problem, result = .error problem →
    disk = start ∨ toward ≠ [] ∧ disk.isDirectory toward = false

variable (preparedFits : ∀ disk, Prepared before disk path → fits mark disk)
variable (grownFollows : ∀ first second, Prepared before first path → Prepared before second path →
  Grown directoryMode first second → follows (mark, first) (mark, second))

include preparedFits grownFollows

/-- One directory on the way is made, or nothing happens. -/
theorem makeDirectory_marked (missing : ¬ HasParent before path) (isToward : Toward path toward) (filled : toward ≠ [])
    (prepared : Prepared before (system.disk state) path) :
    system.Marked fits follows
      (fun result newMark disk => newMark = mark ∧ Prepared before disk path ∧
        ∀ problem, result = .error problem → disk = system.disk state)
      (FileProgram.change (.makeDirectory toward directoryMode)) mark state := by
  refine FileSystem.marked_change (fun next makes => ?_) (preparedFits _ prepared)
    (grownFollows _ _ prepared prepared (.refl _ _)) fun problem _ => ⟨rfl, prepared, fun _ _ => rfl⟩
  have nextPrepared := prepared.makeDirectory missing isToward filled makes
  obtain ⟨directory, name, slash, followed, _, empty, rfl⟩ := makeDirectory_ok makes
  have grown := (prepared.wellFormed.grown_put (prepared.wellFormed.hasDirectory_name followed) empty
    directoryMode).2
  exact ⟨mark, preparedFits _ nextPrepared, grownFollows _ _ prepared nextPrepared grown, rfl,
    nextPrepared, nofun⟩

/-- A problem counts only where there is no directory. That a directory is there already is no
failure of making it. -/
theorem unlessDirectory_marked (problem : Problem) (filled : toward ≠ [])
    (prepared : Prepared before (system.disk state) path) :
    system.Marked fits follows (MakingEnds before start path toward mark)
      (do if ← Program.request (.isDirectory toward) then pure (.ok ()) else pure (.error problem) :
        FileProgram (Except Problem Unit)) mark state := by
  have asked : system.Marked fits follows
      (fun there newMark disk => newMark = mark ∧ Prepared before disk path ∧
        there = disk.isDirectory toward) (Program.request (.isDirectory toward)) mark state :=
    FileSystem.marked_isDirectory (preparedFits _ prepared)
      (grownFollows _ _ prepared prepared (.refl _ _)) ⟨rfl, prepared, rfl⟩
  refine asked.sequence ?_
  rintro there _ next ⟨rfl, nextPrepared, told⟩
  cases there with
  | true => exact .value ⟨rfl, nextPrepared, nofun⟩
  | false => exact .value ⟨rfl, nextPrepared, fun _ _ => .inr ⟨filled, told.symm⟩⟩

/-- The directories on the way are made as far as the file system allows it. The induction is on the
levels; a directory that could not be made for lack of the one above is tried once more. -/
theorem makeDirectories_marked (missing : ¬ HasParent before path) (levels : Nat)
    (isToward : toward ≠ [] → Toward path toward)
    (prepared : Prepared before (system.disk state) path) :
    system.Marked fits follows (MakingEnds before (system.disk state) path toward mark)
      (makeDirectories directoryMode levels toward) mark state := by
  induction levels generalizing toward state with
  | zero => exact .value ⟨rfl, prepared, nofun⟩
  | succ levels inductionHypothesis =>
    unfold makeDirectories
    split
    next => exact .value ⟨rfl, prepared, nofun⟩
    next some =>
      have filled : toward ≠ [] := fun empty => some (by rw [empty]; rfl)
      have make {state : State} (prepared : Prepared before (system.disk state) path) :=
        makeDirectory_marked preparedFits grownFollows missing (isToward filled) filled prepared
      refine (make prepared).sequence ?_
      rintro result _ next ⟨rfl, nextPrepared, still⟩
      split
      next => exact .value ⟨rfl, nextPrepared, nofun⟩
      next =>
        have same := still _ rfl
        split
        next => exact .value ⟨rfl, nextPrepared, fun _ _ => .inl same⟩
        next above named =>
          refine (inductionHypothesis ((isToward filled).parent? named) nextPrepared).sequence ?_
          rintro made _ later ⟨rfl, laterPrepared, failing⟩
          split
          next problem =>
            refine .value ⟨rfl, laterPrepared, fun _ _ => ?_⟩
            rcases failing problem rfl with unmade | ⟨aboveFilled, missing⟩
            · exact .inl (unmade.trans same)
            · -- without the directory above there is none
              refine .inr ⟨filled, Bool.eq_false_iff.mpr fun there => ?_⟩
              have reached := laterPrepared.wellFormed.isDirectory_of_begins
                (begins_of_parent? named aboveFilled) aboveFilled there
              rw [missing] at reached
              cases reached
          next =>
            refine (make laterPrepared).sequence ?_
            rintro again _ last ⟨rfl, lastPrepared, _⟩
            split
            next => exact .value ⟨rfl, lastPrepared, nofun⟩
            next => exact unlessDirectory_marked preparedFits grownFollows _ filled lastPrepared
      next => exact unlessDirectory_marked preparedFits grownFollows _ filled nextPrepared

/-- The directory of a path is made as far as the file system allows it. If there is a problem, the
file beside has no place. -/
theorem ensureDirectory_marked (process : Nat) (same : system.disk state = before)
    (wellFormed : before.WellFormed) :
    system.Marked fits follows
      (fun result newMark disk => newMark = mark ∧ Prepared before disk path ∧
        ∀ problem, result = .error problem →
          ∀ place, ¬ disk.LeadsTo (temporaryPath process path) place)
      (ensureDirectory path) mark state := by
  have prepared : Prepared before (system.disk state) path := same ▸ .refl wellFormed path
  unfold ensureDirectory
  split
  next => exact .value ⟨rfl, prepared, nofun⟩
  next parent named =>
    split
    next => exact .value ⟨rfl, prepared, nofun⟩
    next some =>
      have filled : parent ≠ [] := fun empty => some (by rw [empty]; rfl)
      have asked : system.Marked fits follows
          (fun there newMark disk => newMark = mark ∧ disk = before ∧
            there = before.isThere parent) (Program.request (.isThere parent)) mark state :=
        FileSystem.marked_isThere (preparedFits _ prepared)
          (grownFollows _ _ prepared prepared (.refl _ _)) ⟨rfl, same, by rw [same]⟩
      refine asked.sequence ?_
      rintro there _ next ⟨rfl, still, told⟩
      have nextPrepared : Prepared before (system.disk next) path := still ▸ .refl wellFormed path
      cases there with
      | true => exact .value ⟨rfl, nextPrepared, nofun⟩
      | false =>
        have missing : ¬ HasParent before path := fun there =>
          Bool.noConfusion (told.trans (there parent named (Bool.eq_false_iff.mpr some)))
        have making := makeDirectories_marked preparedFits grownFollows missing (parent.length + 1)
          (fun _ => ⟨parent, named, .refl parent⟩) nextPrepared
        refine making.weaken (fun _ _ => id) (fun _ _ _ => id) ?_
        rintro result _ last ⟨rfl, lastPrepared, failing⟩
        refine ⟨rfl, lastPrepared, fun problem failed place leads => ?_⟩
        have there := isDirectory_parent lastPrepared.wellFormed leads named filled
        rcases failing problem failed with unmade | ⟨_, absent⟩
        · rw [unmade, still] at there
          rw [isDirectory_isThere there] at told
          cases told
        · rw [there] at absent
          cases absent

end Marking

end DashboardTools.Credential
