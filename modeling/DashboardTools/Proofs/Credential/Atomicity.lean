import DashboardTools.Proofs.Credential.Cell
import DashboardTools.Proofs.Credential.SaveRun

/-!
# Saving is atomic

Whoever loads while a save is on its way, or after it was cut off, gets what was there before the
save or the new credential, and never anything else once it got the new one. This holds of every
file system, whatever it refuses. Two things bound it. Directories that the save makes may let a
path that goes up lead to a file that was on the disk all along. And the new credential is what the
codec makes of its text.
-/

namespace DashboardTools.Credential

open DashboardTools.Disk
open DashboardTools.Json
open DashboardTools.Text

/-- Nothing was loaded before, and now a file is loaded that was on the disk before: the path goes
up, and its directory was missing. -/
def Revealed (before disk : Disk) (path : Path) : Prop :=
  CanReveal before path ∧ load? before path = none ∧
    ∃ location bytes, disk.LeadsTo path location ∧ before.bytesAt? location = some bytes ∧
      load? disk path = (Utf8.decode? bytes).bind parse?

/-- A disk on which a save has not put its bytes in place. A file beside where nothing was is for
its owner alone, and holds a beginning of the bytes. -/
structure StillOld (before disk : Disk) (process : Nat) (path : Path) (bytes : List UInt8) : Prop where
  loads : load? disk path = load? before path ∨ Revealed before disk path
  beside : ∀ place mode held, disk.find (temporaryPath process path) = .ok (place, .file mode held) →
    before.node? place = none → mode = fileMode ∧ held <+: bytes

/-- A disk on which a save has put its bytes in place. The file that holds them is for its owner
alone if nothing was in the place of the file beside. -/
structure AlreadyNew (before disk : Disk) (process : Nat) (path : Path) (credential : Credential) :
    Prop where
  loads : load? disk path = parse? credential.text.toList
  here : ∃ place location mode, disk.LeadsTo (temporaryPath process path) place ∧
    disk.find path = .ok (location, .file mode (Utf8.encode credential.text.toList)) ∧
    (before.node? place = none → mode = fileMode)

section

variable {before made disk : Disk} {process : Nat} {path : Path} {credential : Credential}
variable {bytes : List UInt8}

/-- Preparing a disk changes what is loaded only where it reveals a file. -/
theorem Prepared.loads (wellFormed : before.WellFormed) (prepared : Prepared before made path) :
    load? made path = load? before path ∨ Revealed before made path := by
  by_cases same : load? made path = load? before path
  · exact .inl same
  · have unsettled : CanReveal before path := by
      refine ⟨Classical.not_not.mp fun down => same (load?_congr fun held => ⟨fun readable => ?_,
        read_of_grown wellFormed prepared.wellFormed prepared.grown⟩), fun there => same ?_⟩
      · exact (read_before_grown wellFormed prepared.wellFormed prepared.grown readable).2 down
      · rw [prepared.settled there]
    have empty : load? before path = none := by
      refine Classical.not_not.mp fun loaded => ?_
      obtain ⟨found, loaded⟩ := Option.ne_none_iff_exists'.mp loaded
      obtain ⟨held, readable, decoded⟩ := read_of_load? loaded
      have still := read_of_grown wellFormed prepared.wellFormed prepared.grown readable
      exact same (by rw [loaded, load?_of_read still, decoded])
    obtain ⟨found, loaded⟩ := Option.ne_none_iff_exists'.mp (empty ▸ same)
    obtain ⟨held, readable, decoded⟩ := read_of_load? loaded
    obtain ⟨location, leads, there⟩ :=
      (read_before_grown wellFormed prepared.wellFormed prepared.grown readable).1
    exact .inr ⟨unsettled, empty, location, held, leads, there, load?_of_read readable⟩

/-- Where nothing was and no directory is, nothing is. Preparing a path makes directories and no
files. -/
theorem Prepared.absent (prepared : Prepared before made path) {place : Location}
    (absent : before.node? place = none) (free : ¬ made.HasDirectory place) :
    made.node? place = none :=
  (prepared.grown.added place absent).resolve_right fun directory => free ⟨_, directory⟩

/-- A disk on which the temporary file was begun or taken away again has not got the bytes in place.
What is loaded is what was loaded before, or what new directories brought to light. -/
theorem Beside.stillOld (wellFormed : before.WellFormed) (prepared : Prepared before made path)
    (beside : Beside (temporaryPath process path) bytes made disk) :
    StillOld before disk process path bytes := by
  have loads : load? disk path = load? made path := load?_congr (beside.read_iff prepared.wellFormed)
  refine ⟨?_, fun place mode held found absent => ?_⟩
  · rcases prepared.loads wellFormed with same | ⟨unsettled, empty, location, held, leads, there, made⟩
    · exact .inl (loads.trans same)
    · exact .inr ⟨unsettled, empty, location, held, leads.kept beside.keepsDirectories, there,
        loads.trans made⟩
  · obtain ⟨leads, file⟩ := ((beside.wellFormed prepared.wellFormed).find_eq_file_iff _ place mode
      held).mp found
    have free : ¬ made.HasDirectory place := fun there =>
      not_hasDirectory_of_file file (beside.keepsDirectories.directory _ there)
    have nothing := prepared.absent absent free
    have leadsMade := leads.kept beside.keepsDirectoriesBack
    cases beside with
    | untouched same =>
      rw [same, nothing] at file
      cases file
    | begun begun begins =>
      obtain rfl := leadsMade.unique begun.leads
      obtain ⟨rfl, rfl⟩ := Node.file.inj (Option.some.inj (file.symm.trans begun.written.here))
      exact ⟨begun.fresh nothing, begins⟩
    | withdrawn leadsBeside _ emptied =>
      rw [emptied.node, if_pos (leadsMade.unique leadsBeside)] at file
      cases file

/-- Once the bytes stand at the path they are the whole new record. Its mode is that of a new file
wherever the file was created by the save itself. -/
theorem InPlace.alreadyNew {place location : Location} {mode : Nat}
    (prepared : Prepared before made path)
    (inPlace : InPlace (temporaryPath process path) path (Utf8.encode credential.text.toList) made
      disk place location mode) (fresh : made.node? place = none → mode = fileMode) :
    AlreadyNew before disk process path credential := by
  refine ⟨?_, place, location, mode, inPlace.leadsBeside.kept inPlace.keepsDirectories,
    inPlace.find prepared.wellFormed,
    fun absent => fresh (prepared.absent absent inPlace.freeBeside)⟩
  rw [load?_of_read (inPlace.read prepared.wellFormed), Utf8.decode?_encode, Option.bind_some]

end

/-- Points of a run whose second phase lasts are first in the one phase and then in the other. -/
theorem exists_phases {State : Type} {related : Phase × State → Phase × State → Prop}
    (stays : ∀ first second, related first second → first.1 = .placed → second.1 = .placed)
    {points : List (Phase × State)} (ordered : points.Pairwise related) :
    ∃ early late, points = early ++ late ∧ (∀ point ∈ early, point.1 = .unplaced) ∧
      ∀ point ∈ late, point.1 = .placed := by
  induction points with
  | nil => exact ⟨[], [], rfl, by simp, by simp⟩
  | cons point points inductionHypothesis =>
    obtain ⟨after, further⟩ := List.pairwise_cons.mp ordered
    obtain ⟨phase, state⟩ := point
    cases phase with
    | unplaced =>
      obtain ⟨early, late, split, before, since⟩ := inductionHypothesis further
      refine ⟨(.unplaced, state) :: early, late, by rw [split]; rfl, fun point member => ?_, since⟩
      rcases List.mem_cons.mp member with rfl | later
      · rfl
      · exact before point later
    | placed =>
      refine ⟨[], (.placed, state) :: points, rfl, by simp, fun point member => ?_⟩
      rcases List.mem_cons.mp member with rfl | later
      · rfl
      · exact stays _ _ (after point later) rfl

/-- Whoever loads the new credential from one disk loads it from the other. -/
def KeepsNew (path : Path) (credential : Credential) (first second : Disk) : Prop :=
  ∀ new, parse? credential.text.toList = some new → load? first path = some new →
    load? second path = some new

/-- Whoever loads the new credential at one point of a save loads it at every later point of the
same run. -/
theorem Continues.keepsNew {path : Path} {credential : Credential} {first second : Phase × Disk}
    (continues : Continues path (Utf8.encode credential.text.toList) first second) :
    KeepsNew path credential first.2 second.2 := by
  intro new isNew loaded
  obtain ⟨held, readable, decoded⟩ := read_of_load? loaded
  rcases continues.reads held readable with same | replaced
  · rw [load?_of_read same, decoded]
  · rw [load?_of_read replaced, Utf8.decode?_encode, Option.bind_some, isNew]

/-- Saving is atomic for whoever loads, for every path, every credential and every file system with
a well-formed disk: the disks after the single changes of a save are first still old and then
already new, and once the new credential is loaded it goes on to be loaded. The new credential is
the one that was saved, if the number codec reads back its time of expiry. -/
theorem save_is_atomic {State : Type} (system : FileSystem State) (process : Nat) (path : Path)
    (credential : Credential) (state : State) (wellFormed : (system.disk state).WellFormed) :
    (∃ early late,
      ((save process path credential).statesAfter system.answer state).map system.disk =
        early ++ late ∧
      (∀ disk ∈ early, StillOld (system.disk state) disk process path
        (Utf8.encode credential.text.toList)) ∧
      (∀ disk ∈ late, AlreadyNew (system.disk state) disk process path credential) ∧
      (system.disk state :: (early ++ late)).Pairwise (KeepsNew path credential)) ∧
    (ReadsBack credential.expiresAt → parse? credential.text.toList = some credential) := by
  refine ⟨?_, parse?_text credential⟩
  obtain ⟨points, disks, fits, ordered⟩ :=
    FileSystem.Marked.disks (save_phased system process path credential state wellFormed)
      Continues.trans
  obtain ⟨early, late, rfl, before, since⟩ := exists_phases
    (fun first second continues => continues.stays) (List.pairwise_cons.mp ordered).2
  rw [List.map_append] at disks
  refine ⟨_, _, disks.symm, fun disk member => ?_, fun disk member => ?_, ?_⟩
  · obtain ⟨⟨phase, point⟩, isEarly, rfl⟩ := List.mem_map.mp member
    obtain rfl : phase = .unplaced := before _ isEarly
    obtain ⟨made, prepared, beside⟩ := fits _ (List.mem_append_left late isEarly)
    exact beside.stillOld wellFormed prepared
  · obtain ⟨⟨phase, point⟩, isLate, rfl⟩ := List.mem_map.mp member
    obtain rfl : phase = .placed := since _ isLate
    obtain ⟨made, place, location, mode, prepared, inPlace, fresh⟩ :=
      fits _ (List.mem_append_right early isLate)
    exact inPlace.alreadyNew prepared fresh
  · rw [← List.map_append]
    exact List.pairwise_map.mpr (ordered.imp fun continues => continues.keepsNew)

/-- Saving into an empty directory passes through states that show no record and then states that
show the whole record, with nothing between them. -/
theorem sample_save_is_atomic :
    Disk.empty.WellFormed ∧ parse? sampleCredential.text.toList = some sampleCredential ∧
      ∃ early late,
        ((save 7 samplePath sampleCredential).statesAfter FileSystem.plain.answer Disk.empty).map
          FileSystem.plain.disk = early ++ late ∧
        (∀ disk ∈ early, StillOld Disk.empty disk 7 samplePath
          (Utf8.encode sampleCredential.text.toList)) ∧
        (∀ disk ∈ late, AlreadyNew Disk.empty disk 7 samplePath sampleCredential) := by
  obtain ⟨⟨early, late, states, old, new, _⟩, parsed⟩ :=
    save_is_atomic .plain 7 samplePath sampleCredential Disk.empty empty_wellFormed
  exact ⟨empty_wellFormed, parsed sampleCredential_readsBack, early, late, states, old, new⟩

/-- Another session than the one that the hidden file keeps, with a token of its own. -/
def otherCredential : Credential := { sampleCredential with accessToken := "other" }

/-- A session whose time of expiry the number codec does not read back. -/
def faintCredential : Credential := { sampleCredential with expiresAt := 1.0000000000000001e-307 }

/-- A path that goes up from a directory that is missing. -/
def upwardPath : Path := "a/../credentials.json".toList

/-- A disk with a file that others may read, where `upwardPath` puts the file beside. -/
def staleDisk : Disk where
  start := ["work".toList]
  nodes := [(["work".toList], .directory commonMode),
    (["credentials.json.7.tmp".toList, "work".toList], .file 0o644 [])]

/-- While a save is on its way, a third credential can be loaded; after it, the codec can have
rounded the time of expiry; and the record can go to a file that was not there to be seen before and
that others may read. -/
theorem save_can_show_another_credential :
    (∃ disk ∈ (save 7 hiddenPath otherCredential).statesAfter Disk.handle hiddenDisk,
      load? disk hiddenPath ≠ load? hiddenDisk hiddenPath ∧
      load? disk hiddenPath ≠ some otherCredential) ∧
    (∃ disk ∈ (save 7 samplePath faintCredential).statesAfter Disk.handle Disk.empty,
      load? disk samplePath ≠ load? Disk.empty samplePath ∧
      load? disk samplePath ≠ some faintCredential) ∧
    staleDisk.isThere (temporaryPath 7 upwardPath) = false ∧
      ∃ disk ∈ (save 7 upwardPath sampleCredential).statesAfter Disk.handle staleDisk,
        ((disk.find (temporaryPath 7 upwardPath)).toOption.map (·.2)) =
          some (.file 0o644 (Utf8.encode sampleCredential.text.toList)) := by
  refine ⟨?_, ?_, by decide +kernel, ?_⟩
  · have before : (load? hiddenDisk hiddenPath).isNone = true := by decide +kernel
    have shown : ((save 7 hiddenPath otherCredential).statesAfter Disk.handle hiddenDisk).any
        (fun disk => (load? disk hiddenPath).map (·.accessToken) == some "access") = true := by
      decide +kernel
    obtain ⟨disk, member, loaded⟩ := List.any_eq_true.mp shown
    refine ⟨disk, member, fun same => ?_, fun same => ?_⟩
    · rw [same, Option.isNone_iff_eq_none.mp before] at loaded
      cases loaded
    · rw [same] at loaded
      exact absurd loaded (by decide)
  · have before : (load? Disk.empty samplePath).isNone = true := by decide +kernel
    have shown : ((save 7 samplePath faintCredential).statesAfter Disk.handle Disk.empty).any
        (fun disk => decide ((load? disk samplePath).map (·.expiresAt) = some 1e-307)) = true := by
      decide +kernel
    obtain ⟨disk, member, loaded⟩ := List.any_eq_true.mp shown
    have loaded := of_decide_eq_true loaded
    refine ⟨disk, member, fun same => ?_, fun same => ?_⟩
    · rw [same, Option.isNone_iff_eq_none.mp before] at loaded
      cases loaded
    · rw [same] at loaded
      have apart : (1.0000000000000001e-307 : Float) ≠ 1e-307 := by decide +kernel
      exact apart (Option.some.inj loaded)
  · have shown : ((save 7 upwardPath sampleCredential).statesAfter Disk.handle staleDisk).any
        (fun disk => decide (((disk.find (temporaryPath 7 upwardPath)).toOption.map (·.2)) =
          some (.file 0o644 (Utf8.encode sampleCredential.text.toList)))) = true := by
      decide +kernel
    obtain ⟨disk, member, found⟩ := List.any_eq_true.mp shown
    exact ⟨disk, member, of_decide_eq_true found⟩

end DashboardTools.Credential
