import DashboardTools.Proofs.Credential.Reading
import DashboardTools.Proofs.Credential.Stages

/-!
# The run of a save

On any file system the states of a save are first unplaced and then placed: every change on the way
keeps a state in its phase or goes on to the next. At the end a save that reports success has placed
the bytes with the access bits of a credential; one that reports a problem has not, as long as the
file beside can be taken away and access bits can be set.
-/

namespace DashboardTools.Credential

open DashboardTools.Disk
open DashboardTools.Text

/-- How far a save has come: whether its bytes are in place or not. -/
inductive Phase where
  | unplaced
  | placed

/-- What a disk is like in a phase of a save: directories were made, and on top of that only the
file beside was changed, or the bytes are in place. -/
def Fits (before : Disk) (process : Nat) (path : Path) (bytes : List UInt8) : Phase → Disk → Prop
  | .unplaced, disk => ∃ made, Prepared before made path ∧
      Beside (temporaryPath process path) bytes made disk
  | .placed, disk => ∃ made place location mode, Prepared before made path ∧
      InPlace (temporaryPath process path) path bytes made disk place location mode ∧
      (made.node? place = none → mode = fileMode)

/-- A disk comes after another in a save: the bytes stay in place once they are, and what was read
is still read unless the bytes are. -/
structure Continues (path : Path) (bytes : List UInt8) (first second : Phase × Disk) : Prop where
  stays : first.1 = .placed → second.1 = .placed
  reads : ∀ held, first.2.read path = .ok held →
    second.2.read path = .ok held ∨ second.2.read path = .ok bytes

section

variable {before made disk next : Disk} {path : Path} {bytes : List UInt8} {process : Nat}
variable {phase : Phase}

/-- A state of a save continues itself in no steps. -/
theorem Continues.refl (point : Phase × Disk) : Continues path bytes point point :=
  ⟨id, fun _ => .inl⟩

/-- Continuing is transitive: what continues a later state of a save continues the earlier one
too. -/
theorem Continues.trans (first second third : Phase × Disk)
    (earlier : Continues path bytes first second) (later : Continues path bytes second third) :
    Continues path bytes first third := by
  refine ⟨fun placed => later.stays (earlier.stays placed), fun held readable => ?_⟩
  rcases earlier.reads held readable with same | new
  · exact later.reads held same
  · exact .inr ((later.reads bytes new).elim id id)

/-- Making directories takes nothing away, so a state of a save with more of them continues the one
before. -/
theorem Continues.grown (prepared : Prepared before disk path) (further : Prepared before next path)
    (grown : Grown directoryMode disk next) :
    Continues path bytes (phase, disk) (phase, next) :=
  ⟨id, fun _ readable => .inl (read_of_grown prepared.wellFormed further.wellFormed grown readable)⟩

/-- Changing the file beside takes nothing away: what is read at the path does not depend on that
file. -/
theorem Continues.beside (prepared : Prepared before made path)
    (one : Beside (temporaryPath process path) bytes made disk)
    (other : Beside (temporaryPath process path) bytes made next) :
    Continues path bytes (phase, disk) (phase, next) :=
  ⟨id, fun held readable => .inl ((other.read_iff prepared.wellFormed held).mpr
    ((one.read_iff prepared.wellFormed held).mp readable))⟩

/-- Once the bytes are in place, they are read, and so such a state continues any before it. -/
theorem Continues.placed {temporary : Path} {place location : Location} {mode : Nat}
    (prepared : Prepared before made path)
    (inPlace : InPlace temporary path bytes made next place location mode) :
    Continues path bytes (phase, disk) (.placed, next) :=
  ⟨fun _ => rfl, fun _ _ => .inr (inPlace.read prepared.wellFormed)⟩

end

/-- A run of file operations in a save can be marked with its phases. -/
abbrev Phased {State α : Type} (system : FileSystem State) (before : Disk) (process : Nat)
    (path : Path) (bytes : List UInt8) (post : α → Phase → Disk → Prop) (program : FileProgram α)
    (phase : Phase) (state : State) : Prop :=
  system.Marked (Fits before process path bytes) (Continues path bytes) post program phase state

section Parts

variable {State : Type} {system : FileSystem State} {before made : Disk} {process : Nat}
variable {path : Path} {bytes part : List UInt8} {state : State} {place : Location} {mode : Nat}
variable (prepared : Prepared before made path)

include prepared

/-- Creating the file beside begins it, or nothing happens. Either way the bytes are not in place
yet. -/
theorem create_phased (same : system.disk state = made) :
    Phased system before process path bytes
      (fun result phase disk => phase = .unplaced ∧
        match result with
        | .ok () => ∃ place mode, Begun (temporaryPath process path) made disk place mode []
        | .error _ => disk = made)
      (FileProgram.change (.create (temporaryPath process path) fileMode)) .unplaced state := by
  refine FileSystem.marked_change (fun next created => ?_) ⟨made, prepared, .untouched same⟩ (.refl _)
    fun _ _ => ⟨rfl, same⟩
  rw [same] at created
  obtain ⟨place, mode, begun⟩ := begun_of_create created
  have beside := Beside.begun begun (List.nil_prefix (l := bytes))
  exact ⟨.unplaced, ⟨made, prepared, beside⟩, .beside prepared (.untouched same) beside, rfl,
    place, mode, begun⟩

/-- The file beside takes the bytes one at a time, all of them or some. -/
theorem appendAll_phased {rest : List UInt8} (whole : part ++ rest = bytes)
    (begun : Begun (temporaryPath process path) made (system.disk state) place mode part) :
    Phased system before process path bytes
      (fun result phase disk => phase = .unplaced ∧
        match result with
        | .ok () => Begun (temporaryPath process path) made disk place mode bytes
        | .error _ => Beside (temporaryPath process path) bytes made disk)
      (appendAll (temporaryPath process path) rest) .unplaced state := by
  induction rest generalizing part state with
  | nil =>
    rw [List.append_nil] at whole
    exact .value ⟨rfl, whole ▸ begun⟩
  | cons byte rest inductionHypothesis =>
    have longer : (part ++ [byte]) ++ rest = bytes := by rw [← whole]; simp
    have beside := Beside.begun begun ⟨byte :: rest, whole⟩
    have step : Phased system before process path bytes
        (fun result phase disk => phase = .unplaced ∧
          match result with
          | .ok () => Begun (temporaryPath process path) made disk place mode (part ++ [byte])
          | .error _ => Beside (temporaryPath process path) bytes made disk)
        (FileProgram.change (.append (temporaryPath process path) [byte])) .unplaced state := by
      refine FileSystem.marked_change (fun next appended => ?_) ⟨made, prepared, beside⟩ (.refl _)
        fun _ _ => ⟨rfl, beside⟩
      have more := begun.append appended
      have besideNext := Beside.begun more ⟨rest, longer⟩
      exact ⟨.unplaced, ⟨made, prepared, besideNext⟩, .beside prepared beside besideNext, rfl, more⟩
    refine step.sequence ?_
    rintro (problem | done) phase next ⟨rfl, ending⟩
    · exact .value ⟨rfl, ending⟩
    · exact inductionHypothesis longer ending

/-- Moving the file beside puts the bytes in place, or nothing happens. -/
theorem rename_phased
    (begun : Begun (temporaryPath process path) made (system.disk state) place mode bytes) :
    Phased system before process path bytes
      (fun result phase disk =>
        match result with
        | .ok () => phase = .placed ∧
            ∃ location, InPlace (temporaryPath process path) path bytes made disk place location mode
        | .error _ => phase = .unplaced ∧ Beside (temporaryPath process path) bytes made disk)
      (FileProgram.change (.rename (temporaryPath process path) path)) .unplaced state := by
  have beside := Beside.begun begun (List.prefix_refl bytes)
  refine FileSystem.marked_change (fun next renamed => ?_) ⟨made, prepared, beside⟩ (.refl _)
    fun _ _ => ⟨rfl, beside⟩
  obtain ⟨location, inPlace⟩ := begun.rename renamed
  exact ⟨.placed, ⟨made, place, location, mode, prepared, inPlace, begun.fresh⟩,
    .placed prepared inPlace, rfl, location, inPlace⟩

/-- Writing the file beside and moving it puts the bytes in place, or only the file beside has been
changed. -/
theorem replace_phased (same : system.disk state = made) :
    Phased system before process path bytes
      (fun result phase disk =>
        match result with
        | .ok () => phase = .placed ∧ ∃ place location mode,
            InPlace (temporaryPath process path) path bytes made disk place location mode ∧
            (made.node? place = none → mode = fileMode)
        | .error _ => phase = .unplaced ∧ Beside (temporaryPath process path) bytes made disk)
      (replace (temporaryPath process path) path bytes) .unplaced state := by
  unfold replace
  refine (create_phased prepared same).sequence ?_
  rintro (problem | done) phase opened ⟨rfl, ending⟩
  · exact .value ⟨rfl, .untouched ending⟩
  · obtain ⟨place, mode, begun⟩ := ending
    refine (appendAll_phased prepared (List.nil_append bytes) begun).sequence ?_
    rintro (problem | done) phase filled ⟨rfl, ending⟩
    · exact .value ⟨rfl, ending⟩
    · refine (rename_phased prepared ending).weaken (fun _ _ => id) (fun _ _ _ => id) ?_
      rintro (problem | done) phase last ending
      · exact ending
      · obtain ⟨placed, location, inPlace⟩ := ending
        exact ⟨placed, place, location, mode, inPlace, begun.fresh⟩

/-- Taking the file beside away leaves none, if that is never refused without a reason. -/
theorem remove_phased
    (beside : Beside (temporaryPath process path) bytes made (system.disk state)) :
    Phased system before process path bytes
      (fun _ phase disk => phase = .unplaced ∧ (system.Grants (.remove (temporaryPath process path)) →
        Tidied (temporaryPath process path) made disk))
      (FileProgram.change (.remove (temporaryPath process path))) .unplaced state := by
  refine FileSystem.marked_change (fun next removed => ?_) ⟨made, prepared, beside⟩ (.refl _)
    fun problem allowed => ⟨rfl, fun grants => ?_⟩
  · have tidied := beside.remove removed
    exact ⟨.unplaced, ⟨made, prepared, tidied.beside⟩, .beside prepared beside tidied.beside, rfl,
      fun _ => tidied⟩
  · obtain ⟨other, refused⟩ := allowed grants
    exact beside.tidied refused

/-- The credential gets its access bits, if that is never refused without a reason. -/
theorem setMode_phased {location : Location}
    (inPlace : InPlace (temporaryPath process path) path bytes made (system.disk state) place
      location mode) (fresh : made.node? place = none → mode = fileMode) :
    Phased system before process path bytes
      (fun result phase disk =>
        match result with
        | .ok () => phase = .placed ∧
            InPlace (temporaryPath process path) path bytes made disk place location fileMode
        | .error _ => ¬ system.Grants (.setMode path fileMode))
      (FileProgram.change (.setMode path fileMode)) .placed state := by
  obtain ⟨next, moded, inPlaceNext⟩ := inPlace.setMode
  refine FileSystem.marked_change (fun other changed => ?_)
    ⟨made, place, location, mode, prepared, inPlace, fresh⟩ (.refl _) fun problem allowed grants => ?_
  · obtain rfl := Except.ok.inj (moded.symm.trans changed)
    exact ⟨.placed, ⟨made, place, location, fileMode, prepared, inPlaceNext, fun _ => rfl⟩,
      .placed prepared inPlaceNext, rfl, inPlaceNext⟩
  · obtain ⟨other, refused⟩ := allowed grants
    cases moded.symm.trans refused

end Parts

/-- How a save ends on a file system: with the bytes in place, or with none beside. -/
def SaveEnds {State : Type} (system : FileSystem State) (before : Disk) (process : Nat) (path : Path)
    (bytes : List UInt8) (disk : Disk) : Except Problem Unit → Prop
  | .ok () => ∃ made place location, Prepared before made path ∧
      InPlace (temporaryPath process path) path bytes made disk place location fileMode
  | .error _ => system.Grants (.remove (temporaryPath process path)) →
      system.Grants (.setMode path fileMode) →
      ∃ made, Prepared before made path ∧ Tidied (temporaryPath process path) made disk

/-- A save on any file system runs through its phases and ends as it should. -/
theorem save_phased {State : Type} (system : FileSystem State) (process : Nat) (path : Path)
    (credential : Credential) (state : State) (wellFormed : (system.disk state).WellFormed) :
    Phased system (system.disk state) process path (Utf8.encode credential.text.toList)
      (fun result _ disk => SaveEnds system (system.disk state) process path
        (Utf8.encode credential.text.toList) disk result)
      (save process path credential) .unplaced state := by
  unfold save
  refine Program.Marked.sequence (ensureDirectory_marked
    (fun made prepared => ⟨made, prepared, .untouched rfl⟩) (fun _ _ => .grown) process rfl
    wellFormed) ?_
  rintro (problem | done) phase next ⟨rfl, prepared, nowhere⟩
  · exact .value fun _ _ => ⟨_, prepared, .inl rfl, fun place leads =>
      (nowhere problem rfl place leads).elim⟩
  · refine (replace_phased prepared rfl).sequence ?_
    rintro (problem | done) phase replaced ending
    · obtain ⟨rfl, beside⟩ := ending
      refine (remove_phased prepared beside).sequence ?_
      rintro result phase last ⟨rfl, tidied⟩
      exact .value fun grants _ => ⟨_, prepared, tidied grants⟩
    · obtain ⟨rfl, place, location, mode, inPlace, fresh⟩ := ending
      refine (setMode_phased prepared inPlace fresh).weaken (fun _ _ => id) (fun _ _ _ => id) ?_
      rintro (problem | done) phase last ending
      · exact fun _ grants => (ending grants).elim
      · exact ⟨_, place, location, prepared, ending.2⟩

end DashboardTools.Credential
