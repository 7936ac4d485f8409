import DashboardTools.Proofs.Credential.Preparing

/-!
# The stages of a save

Until the bytes are in place, a save changes nothing but the file beside, after making directories;
once they are, the file beside is gone and only the access bits of the credential can still change.
The run of a save on any file system is marked with these two phases. What was read stays readable
along the run, or the bytes that are saved are read in its place.
-/

namespace DashboardTools.Credential

open DashboardTools.Disk
open DashboardTools.Text

variable {temporary path : Path} {bytes part : List UInt8} {made disk next : Disk}
variable {place location : Location} {mode : Nat}

/-- A disk is another one with a file beside that has been begun. A new file gets the access bits of
a credential, an old one keeps its own. -/
structure Begun (temporary : Path) (made disk : Disk) (place : Location) (mode : Nat)
    (part : List UInt8) : Prop where
  leads : made.LeadsTo temporary place
  free : ¬ made.HasDirectory place
  fresh : made.node? place = none → mode = fileMode
  written : Written made disk place mode part

/-- A disk is another one but for the file beside, which may have been begun or taken away. -/
inductive Beside (temporary : Path) (bytes : List UInt8) (made disk : Disk) : Prop where
  | untouched (same : disk = made)
  | begun {place : Location} {mode : Nat} {part : List UInt8}
      (begun : Begun temporary made disk place mode part) (begins : part <+: bytes)
  | withdrawn {place : Location} (leads : made.LeadsTo temporary place)
      (free : ¬ made.HasDirectory place) (emptied : Emptied made disk place)

/-- A disk on which the temporary file has been begun is well-formed, since the file stands in a
directory. -/
theorem Begun.wellFormed (begun : Begun temporary made disk place mode part)
    (wellFormed : made.WellFormed) : disk.WellFormed :=
  wellFormed.written begun.written (wellFormed.hasDirectory_of_leadsTo begun.leads) begun.free

/-- Beginning the temporary file keeps every directory, because the place it takes held none. -/
theorem Begun.keepsDirectories (begun : Begun temporary made disk place mode part) :
    made.KeepsDirectories disk := begun.written.keepsDirectories begun.free

/-- The temporary path still leads to the same place after the file was begun there. -/
theorem Begun.leads_after (begun : Begun temporary made disk place mode part) :
    disk.LeadsTo temporary place := begun.leads.kept begun.keepsDirectories

/-- A disk with the temporary file beside the target is well-formed at every stage of the
writing. -/
theorem Beside.wellFormed (beside : Beside temporary bytes made disk)
    (wellFormed : made.WellFormed) : disk.WellFormed := by
  cases beside with
  | untouched same => exact same ▸ wellFormed
  | begun begun begins => exact begun.wellFormed wellFormed
  | withdrawn leads free emptied => exact wellFormed.emptied emptied free

/-- Writing beside the target keeps every directory that was there. -/
theorem Beside.keepsDirectories (beside : Beside temporary bytes made disk) :
    made.KeepsDirectories disk := by
  cases beside with
  | untouched same => exact same ▸ .refl made
  | begun begun begins => exact begun.keepsDirectories
  | withdrawn leads free emptied => exact emptied.keepsDirectories free

/-- Writing beside the target adds no directory either, so paths lead to the same places before and
after it. -/
theorem Beside.keepsDirectoriesBack (beside : Beside temporary bytes made disk) :
    disk.KeepsDirectories made := by
  cases beside with
  | untouched same => exact same ▸ .refl made
  | begun begun begins => exact begun.written.keepsDirectoriesBack
  | withdrawn leads free emptied => exact emptied.keepsDirectoriesBack

/-- All places but that of the file beside are left alone. -/
theorem Beside.elsewhere (beside : Beside temporary bytes made disk) {other : Location}
    (apart : ∀ place, made.LeadsTo temporary place → other ≠ place) :
    disk.node? other = made.node? other := by
  cases beside with
  | untouched same => rw [same]
  | begun begun begins => rw [begun.written.node, if_neg (apart _ begun.leads)]
  | withdrawn leads free emptied => rw [emptied.node, if_neg (apart _ leads)]

/-- While only the file beside is changed, the same is read as before. -/
theorem Beside.read_iff {process : Nat}
    (beside : Beside (temporaryPath process path) bytes made disk) (wellFormed : made.WellFormed)
    (held : List UInt8) : disk.read path = .ok held ↔ made.read path = .ok held := by
  rw [(beside.wellFormed wellFormed).read_eq_ok_iff, wellFormed.read_eq_ok_iff]
  have same {location : Location} (leads : made.LeadsTo path location) :
      disk.bytesAt? location = made.bytesAt? location := by
    unfold bytesAt?
    rw [beside.elsewhere fun place leadsBeside => (beside_ne leadsBeside leads).symm]
  constructor
  · rintro ⟨location, leads, there⟩
    have leadsMade := leads.kept beside.keepsDirectoriesBack
    exact ⟨location, leadsMade, same leadsMade ▸ there⟩
  · rintro ⟨location, leads, there⟩
    exact ⟨location, leads.kept beside.keepsDirectories, (same leads).trans there⟩

/-- A disk is another one with the bytes at the place of the path and nothing beside. -/
structure InPlace (temporary path : Path) (bytes : List UInt8) (made disk : Disk)
    (place location : Location) (mode : Nat) : Prop where
  leadsBeside : made.LeadsTo temporary place
  leads : made.LeadsTo path location
  freeBeside : ¬ made.HasDirectory place
  free : ¬ made.HasDirectory location
  moved : ∃ between, Emptied made between place ∧ Written between disk location mode bytes

/-- Moving the file into place keeps every directory, since it moves a file to a place without
one. -/
theorem InPlace.keepsDirectories (inPlace : InPlace temporary path bytes made disk place location mode) :
    made.KeepsDirectories disk := by
  obtain ⟨between, emptied, written⟩ := inPlace.moved
  have free := fun there => inPlace.free (emptied.keepsDirectoriesBack.directory _ there)
  exact (emptied.keepsDirectories inPlace.freeBeside).trans (written.keepsDirectories free)

/-- Moving the file into place keeps the disk well-formed, since the target's directory was there to
receive it. -/
theorem InPlace.wellFormed (inPlace : InPlace temporary path bytes made disk place location mode)
    (wellFormed : made.WellFormed) : disk.WellFormed := by
  obtain ⟨between, emptied, written⟩ := inPlace.moved
  have into := (emptied.keepsDirectories inPlace.freeBeside).directory _
    (wellFormed.hasDirectory_of_leadsTo inPlace.leads)
  exact (wellFormed.emptied emptied inPlace.freeBeside).written written into
    fun there => inPlace.free (emptied.keepsDirectoriesBack.directory _ there)

/-- After the move every place is known: the target holds the bytes, the temporary place is empty,
and any other place is as it was prepared. -/
theorem InPlace.node (inPlace : InPlace temporary path bytes made disk place location mode)
    (other : Location) : disk.node? other =
      if other = location then some (.file mode bytes)
      else if other = place then none else made.node? other := by
  obtain ⟨between, emptied, written⟩ := inPlace.moved
  rw [written.node, emptied.node]

/-- After the move the path finds the new file with its mode and its bytes. -/
theorem InPlace.find (inPlace : InPlace temporary path bytes made disk place location mode)
    (wellFormed : made.WellFormed) : disk.find path = .ok (location, .file mode bytes) :=
  ((inPlace.wellFormed wellFormed).find_eq_file_iff path location mode bytes).mpr
    ⟨inPlace.leads.kept inPlace.keepsDirectories, by rw [inPlace.node, if_pos rfl]⟩

/-- After the move reading the path gives exactly the bytes. -/
theorem InPlace.read (inPlace : InPlace temporary path bytes made disk place location mode)
    (wellFormed : made.WellFormed) : disk.read path = .ok bytes := by
  simp [Disk.read, inPlace.find wellFormed]

/-- The file beside is begun when creating it succeeds, as an empty file at the place its path leads
to. -/
theorem begun_of_create (created : made.create temporary fileMode = .ok next) :
    ∃ place mode, Begun temporary made next place mode [] := by
  obtain ⟨_, leads, ⟨empty, rfl⟩ | ⟨oldMode, old, file, rfl⟩⟩ := create_ok created
  · obtain ⟨directory, name, rfl, _⟩ := id leads
    exact ⟨_, fileMode, leads, not_hasDirectory_of_none empty, fun _ => rfl, written_put _ _ _ _ _⟩
  · obtain ⟨directory, name, rfl, _⟩ := id leads
    refine ⟨_, oldMode, leads, not_hasDirectory_of_file file, fun empty => ?_, written_put _ _ _ _ _⟩
    rw [file] at empty
    cases empty

/-- The file beside takes more bytes after those that it has, and stays at its place with its
mode. -/
theorem Begun.append (begun : Begun temporary made disk place mode part)
    {more : List UInt8} (appended : disk.append temporary more = .ok next) :
    Begun temporary made next place mode (part ++ more) := by
  obtain ⟨directory, name, rfl, _⟩ := id begun.leads
  rw [append_of_leadsTo begun.leads_after begun.written.here] at appended
  obtain rfl := Except.ok.inj appended
  exact ⟨begun.leads, begun.free, begun.fresh,
    begun.written.again (written_put disk name directory mode (part ++ more))⟩

/-- The file beside moves to the place of the credential. -/
theorem Begun.rename (begun : Begun temporary made disk place mode bytes)
    (renamed : disk.rename temporary path = .ok next) :
    ∃ location, InPlace temporary path bytes made next place location mode := by
  obtain ⟨source, location, fileMode, held, slash, ⟨directory, name, rfl, followed⟩, leads, file,
    free, rfl⟩ := rename_ok renamed
  obtain ⟨_, _, rfl, followedBeside, _⟩ := id begun.leads_after
  obtain ⟨rfl, rfl, _⟩ := Ending.name.inj (Except.ok.inj (followed.symm.trans followedBeside))
  obtain ⟨rfl, rfl⟩ := Node.file.inj (Option.some.inj (file.symm.trans begun.written.here))
  obtain ⟨above, last, rfl, _⟩ := id leads
  have leadsMade := leads.kept begun.written.keepsDirectoriesBack
  exact ⟨_, begun.leads, leadsMade, begun.free,
    fun there => free (begun.keepsDirectories.directory _ there), _,
    begun.written.emptied (emptied_erase disk _ _), written_put _ _ _ _ _⟩

/-- The credential gets its access bits once it is in place. This cannot fail, because the file is
there. -/
theorem InPlace.setMode (inPlace : InPlace temporary path bytes made disk place location mode) :
    ∃ next, disk.setMode path fileMode = .ok next ∧
      InPlace temporary path bytes made next place location fileMode := by
  obtain ⟨directory, name, rfl, _⟩ := id inPlace.leads
  have file := inPlace.node (name :: directory)
  rw [if_pos rfl] at file
  obtain ⟨between, emptied, written⟩ := inPlace.moved
  refine ⟨_, setMode_of_leadsTo
    (inPlace.leads.kept inPlace.keepsDirectories) file fileMode, inPlace.leadsBeside, inPlace.leads,
    inPlace.freeBeside, inPlace.free, between, emptied, ?_⟩
  exact written.again (written_put disk name directory fileMode bytes)

/-- A disk is another one, perhaps with the file beside taken away, and there is none beside. -/
structure Tidied (temporary : Path) (made disk : Disk) : Prop where
  same : disk = made ∨ ∃ place, made.LeadsTo temporary place ∧ ¬ made.HasDirectory place ∧
    Emptied made disk place
  nothing : ∀ place, disk.LeadsTo temporary place → disk.bytesAt? place = none

/-- A disk tidied after a save is one of those beside which nothing more stands: untouched, or with
the temporary file withdrawn. -/
theorem Tidied.beside {temporary : Path} (tidied : Tidied temporary made disk) :
    Beside temporary bytes made disk := by
  rcases tidied.same with same | ⟨place, leads, free, emptied⟩
  · exact .untouched same
  · exact .withdrawn leads free emptied

/-- The file beside is taken away, and then nothing but new directories sets the disk apart from the
one before. -/
theorem Beside.remove (beside : Beside temporary bytes made disk)
    (removed : disk.remove temporary = .ok next) : Tidied temporary made next := by
  obtain ⟨_, fileMode, held, leads, file, rfl⟩ := remove_eq_ok_iff.mp removed
  obtain ⟨directory, name, rfl, _⟩ := id leads
  have erased := emptied_erase disk name directory
  have leadsMade := leads.kept beside.keepsDirectoriesBack
  have free : ¬ made.HasDirectory (name :: directory) := fun there =>
    not_hasDirectory_of_file file (beside.keepsDirectories.directory _ there)
  have emptied : Emptied made (disk.erase (name :: directory)) (name :: directory) := by
    refine ⟨erased.start.trans beside.keepsDirectories.start, fun other => ?_⟩
    rw [erased.node]
    split
    next => rfl
    next apart => exact beside.elsewhere fun place led same => apart (same.trans (led.unique leadsMade))
  refine ⟨.inr ⟨_, leadsMade, free, emptied⟩, fun place led => ?_⟩
  rw [(led.kept emptied.keepsDirectoriesBack).unique leadsMade, Disk.bytesAt?, emptied.node,
    if_pos rfl]

/-- Where the file beside cannot be taken away, there is none. -/
theorem Beside.tidied (beside : Beside temporary bytes made disk) {problem : Problem}
    (refused : disk.remove temporary = .error problem) : Tidied temporary made disk := by
  have nothing (place : Location) (leads : disk.LeadsTo temporary place) :
      disk.bytesAt? place = none := by
    cases held : disk.bytesAt? place with
    | none => rfl
    | some bytes =>
      obtain ⟨mode, file⟩ := (bytesAt?_eq_some_iff disk place bytes).mp held
      have works := remove_eq_ok_iff.mpr ⟨place, mode, bytes, leads, file, rfl⟩
      rw [refused] at works
      cases works
  refine ⟨?_, nothing⟩
  cases beside with
  | untouched same => exact .inl same
  | begun begun begins =>
    have empty := nothing _ begun.leads_after
    rw [Disk.bytesAt?, begun.written.here] at empty
    cases empty
  | withdrawn leads free emptied => exact .inr ⟨_, leads, free, emptied⟩

end DashboardTools.Credential
