import DashboardTools.Credential.Store
import DashboardTools.Proofs.Decimal.Digits
import DashboardTools.Proofs.Disk.Parents

/-!
# The file beside a credential

The file that a save writes first lies under the directory of the path, with a longer name than the
credential's own. So the two never share a place, whatever the path looks like, and where the file
beside has a place, the directory of the path is there.
-/

namespace DashboardTools.Credential

open DashboardTools.Disk
open DashboardTools.Text

/-- The name of the file beside a credential: the file's own name with the process and an ending
after it. -/
def temporaryName (process : Nat) (path : Path) : List Char :=
  (path.fileName?).getD "credentials.json".toList ++ '.' :: Decimal.natText process ++ ".tmp".toList

/-- What the name of the file beside is joined to. -/
def besideIn (path : Path) : Path :=
  match path.fileName? with
  | some _ => path.parent?.getD []
  | none => path

/-- The temporary path is the target's directory followed by the temporary name. -/
theorem temporaryPath_eq (process : Nat) (path : Path) :
    temporaryPath process path = (besideIn path).join (temporaryName process path) := by
  unfold temporaryPath Path.withFileName besideIn temporaryName
  cases path.fileName? <;> rfl

/-- A file name is a segment of its path, so it has no slash in it. -/
theorem mem_segments_of_fileName? {path : Path} {name : List Char}
    (named : path.fileName? = some name) : name ∈ path.segments := by
  unfold Path.fileName? at named
  split at named
  next => cases named
  next last index telling =>
    have told : (last, index) ∈ path.segments.zipIdx :=
      List.mem_reverse.mp ((List.dropWhile_sublist _).mem
        (List.mem_reverse.mp (List.mem_of_getLast? telling)))
    split at named
    · cases named
    · split at named
      · cases named
      · obtain rfl := Option.some.inj named
        exact List.fst_mem_of_mem_zipIdx told

/-- The temporary name is the name of an entry: it is not empty, and no slash stands in it. -/
theorem temporaryName_isName (process : Nat) (path : Path) :
    IsName (temporaryName process path) := by
  refine ⟨by simp [temporaryName], fun c member => ?_⟩
  simp only [temporaryName, List.append_assoc, List.mem_append, List.cons_append,
    List.mem_cons] at member
  rcases member with inName | rfl | inDigits | inEnd
  · cases named : path.fileName? with
    | none =>
      have plain : "credentials.json".toList.all (· != '/') = true := rfl
      rw [named] at inName
      simpa using List.all_eq_true.mp plain c inName
    | some name =>
      rw [named] at inName
      exact not_inClass_of_mem_fields (mem_segments_of_fileName? named) c inName
  · rfl
  · have digit : c.isDigit = true := (Decimal.natText_isWhole process).digits c inDigits
    have apart : c ≠ '/' := by
      rintro rfl
      simp [Char.isDigit] at digit
    simpa using apart
  · have plain : ".tmp".toList.all (· != '/') = true := rfl
    simpa using List.all_eq_true.mp plain c inEnd

/-- The temporary path walks through the names of the target's directory and then through the
temporary name. -/
theorem names_temporaryPath (process : Nat) (path : Path) :
    names (temporaryPath process path) =
      names (besideIn path) ++ [temporaryName process path] := by
  rw [temporaryPath_eq, names_join _ (temporaryName_isName process path)]

variable {disk : Disk} {process : Nat} {path : Path} {place location : Location}

/-- The file beside never has the place of the credential: its name is longer. -/
theorem beside_ne (leadsBeside : disk.LeadsTo (temporaryPath process path) place)
    (leads : disk.LeadsTo path location) : place ≠ location := by
  rintro rfl
  obtain ⟨directory, name, rfl, followed, _⟩ := leads
  obtain ⟨_, _, same, followedBeside, _⟩ := leadsBeside
  obtain ⟨rfl, rfl⟩ := List.cons.inj same
  obtain ⟨_, isLast, noDot, noDots, _⟩ := follow_name followed
  obtain ⟨_, isLastBeside, _⟩ := follow_name followedBeside
  rw [names_temporaryPath, List.getLast?_concat, Option.some.injEq] at isLastBeside
  have named := fileName?_of_getLast? isLast noDot noDots
  have longer := congrArg List.length isLastBeside
  simp only [temporaryName, named, Option.getD_some, List.length_append, List.length_cons] at longer
  omega

/-- Where the file beside has a place, what its name is joined to is a directory. -/
theorem isDirectory_besideIn (wellFormed : disk.WellFormed)
    (leadsBeside : disk.LeadsTo (temporaryPath process path) place) (filled : besideIn path ≠ []) :
    disk.isDirectory (besideIn path) = true := by
  obtain ⟨directory, name, rfl, followed, _⟩ := leadsBeside
  obtain ⟨followable, _, _, _, entered⟩ := follow_name followed
  have begins : Begins (besideIn path) (temporaryPath process path) := by
    rw [temporaryPath_eq]
    exact begins_join filled (temporaryName_isName process path)
  rw [names_temporaryPath, List.dropLast_concat, startOf, ← begins.rooted] at entered
  exact (wellFormed.isDirectory_iff _).mpr ⟨followable.begins begins filled, directory, entered⟩

/-- Where the file beside has a place, the directory of the path is there. -/
theorem isDirectory_parent (wellFormed : disk.WellFormed)
    (leadsBeside : disk.LeadsTo (temporaryPath process path) place) {parent : Path}
    (named : path.parent? = some parent) (filled : parent ≠ []) :
    disk.isDirectory parent = true := by
  have into := isDirectory_besideIn wellFormed leadsBeside
  cases fileName : path.fileName? with
  | some name =>
    have same : besideIn path = parent := by simp [besideIn, fileName, named]
    rw [same] at into
    exact into filled
  | none =>
    have same : besideIn path = path := by simp [besideIn, fileName]
    rw [same] at into
    have pathFilled : path ≠ [] := by
      rintro rfl
      cases named
    exact wellFormed.isDirectory_of_begins (begins_of_parent? named filled) filled (into pathFilled)

end DashboardTools.Credential
