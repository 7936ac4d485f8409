import DashboardTools.Proofs.Disk.Following
import DashboardTools.Proofs.Text.Fields

/-!
# Parents and siblings

The parent of a path is a beginning of it: whoever follows the path comes through its parent first.
A name joined to a path is entered where that path leads. So the directories on the way to a path
are the ones that a beginning of it leads to, and a path with a name under it leads anywhere only if
it is a directory itself.
-/

namespace DashboardTools.Disk

open DashboardTools.Text

/-- A path is its segments put together again, so nothing is lost by parting it. -/
theorem ofSegments_segments (path : Path) : Path.ofSegments path.segments = path :=
  intercalate_fields '/' path

/-- The text of two runs of segments is the text of each with a slash between them. -/
theorem ofSegments_append {first second : List (List Char)} (filled : first ≠ [])
    (more : second ≠ []) :
    Path.ofSegments (first ++ second) = Path.ofSegments first ++ '/' :: Path.ofSegments second := by
  induction first with
  | nil => exact absurd rfl filled
  | cons segment rest inductionHypothesis =>
    cases rest with
    | nil =>
      obtain ⟨next, others, rfl⟩ := List.exists_cons_of_ne_nil more
      simp [Path.ofSegments, List.intercalate_cons_cons]
    | cons next others =>
      have further := inductionHypothesis (by simp)
      unfold Path.ofSegments at further ⊢
      rw [List.cons_append, List.cons_append, List.intercalate_cons_cons, ← List.cons_append,
        further, List.intercalate_cons_cons]
      simp

/-- A slash parts the segments of a path into those before it and those after it. -/
theorem segments_append (before after : Path) :
    Path.segments (before ++ '/' :: after) = Path.segments before ++ Path.segments after :=
  fields_append (by decide) before after

/-- A path parted at a slash walks through the names before the slash and then through the names
after it. -/
theorem names_append (before after : Path) :
    names (before ++ '/' :: after) = names before ++ names after := by
  unfold names
  rw [segments_append, List.filter_append]

/-- One path is a beginning of another: as a text, by its names, and in where it starts. -/
structure Begins (first path : Path) : Prop where
  text : first <+: path
  names : names first <+: Disk.names path
  rooted : first.isRooted = path.isRooted

/-- Every path begins itself, with all of its names. -/
theorem Begins.refl (path : Path) : Begins path path :=
  ⟨List.prefix_refl _, List.prefix_refl _, rfl⟩

/-- Beginning is transitive: a beginning of a beginning begins the whole. -/
theorem Begins.trans {first second third : Path} (one : Begins first second)
    (other : Begins second third) : Begins first third :=
  ⟨one.text.trans other.text, one.names.trans other.names, one.rooted.trans other.rooted⟩

/-- What stands before a slash is a beginning of a path. -/
theorem begins_append {first rest : Path} (filled : first ≠ []) :
    Begins first (first ++ '/' :: rest) := by
  refine ⟨List.prefix_append _ _, ?_, ?_⟩
  · rw [names_append]
    exact List.prefix_append _ _
  · obtain ⟨c, others, rfl⟩ := List.exists_cons_of_ne_nil filled
    rfl

/-- A rooted path begins at the root, which has no names of its own. -/
theorem begins_slash (rest : Path) : Begins ['/'] ('/' :: rest) := by
  refine ⟨⟨rest, rfl⟩, ?_, rfl⟩
  have root : names ['/'] = [] := by decide
  rw [root]
  exact List.nil_prefix

/-- The parent of a path is made of its first segments, and at least one segment is left over. -/
theorem segments_of_parent? {path parent : Path} (named : path.parent? = some parent) :
    ∃ kept rest, path.segments = kept ++ rest ∧ rest ≠ [] ∧
      ((kept = [[]] ∧ parent = ['/']) ∨ parent = Path.ofSegments kept) := by
  unfold Path.parent? at named
  split at named
  next => cases named
  next last before telling =>
    split at named
    next => cases named
    next =>
      generalize keptDefinition : (before.dropWhile fun entry =>
        !path.tells entry.2 entry.1).reverse = kept at named
      have suffix : last :: before <:+ path.segments.zipIdx.reverse := by
        rw [← telling, Path.tellingSegments, List.reverse_reverse]
        exact List.dropWhile_suffix _
      have keptSuffix : kept.reverse <:+ before := by
        rw [← keptDefinition, List.reverse_reverse]
        exact List.dropWhile_suffix _
      obtain ⟨dropped, rejoined⟩ := keptSuffix
      obtain ⟨cut, whole⟩ := suffix
      have zipped : path.segments.zipIdx = kept ++ (dropped.reverse ++ last :: cut.reverse) := by
        rw [← List.reverse_reverse path.segments.zipIdx, ← whole, ← rejoined]
        simp
      have unzipped := congrArg (List.map Prod.fst) zipped
      rw [List.zipIdx_map_fst, List.map_append] at unzipped
      refine ⟨_, _, unzipped, by simp, ?_⟩
      dsimp only at named
      split at named
      next root => exact .inl ⟨root, (Option.some.inj named).symm⟩
      next => exact .inr (Option.some.inj named).symm

/-- The parent of a path is empty or a beginning of it. -/
theorem begins_of_parent? {path parent : Path} (named : path.parent? = some parent)
    (filled : parent ≠ []) : Begins parent path := by
  obtain ⟨kept, rest, split, more, parents⟩ := segments_of_parent? named
  have whole : path = Path.ofSegments (kept ++ rest) := by rw [← split, ofSegments_segments]
  rcases parents with ⟨rfl, rfl⟩ | rfl
  · rw [whole, ofSegments_append (by simp) more]
    exact begins_slash _
  · have some : kept ≠ [] := by
      rintro rfl
      exact filled rfl
    rw [whole, ofSegments_append some more]
    exact begins_append filled

/-- A beginning of a path that can be followed can be followed, unless it is empty. -/
theorem Followable.begins {first path : Path} (followable : Followable path)
    (begins : Begins first path) (filled : first ≠ []) : Followable first := by
  obtain ⟨noZero, _, short⟩ := followable
  obtain ⟨rest, rfl⟩ := begins.text
  refine ⟨?_, by simpa using filled, ?_⟩
  · rw [List.contains_append, Bool.or_eq_false_iff] at noZero
    exact noZero.1
  · have longer : (Utf8.encode (first ++ rest)).length =
        (Utf8.encode first).length + (Utf8.encode rest).length := by simp [Utf8.encode]
    omega

/-- Entering names one after the other can be cut anywhere. -/
theorem enterAll_append (disk : Disk) (here : Location) (first second : List (List Char)) :
    disk.enterAll here (first ++ second) =
      match disk.enterAll here first with
      | .error problem => .error problem
      | .ok middle => disk.enterAll middle second := by
  induction first generalizing here with
  | nil => rfl
  | cons name rest inductionHypothesis =>
    simp only [List.cons_append, enterAll]
    cases disk.enter here name with
    | error problem => rfl
    | ok next => exact inductionHypothesis next

/-- If all names are entered, so are the first of them. -/
theorem enterAll_of_prefix {disk : Disk} {here last : Location} {first entered : List (List Char)}
    (begins : first <+: entered) (reached : disk.enterAll here entered = .ok last) :
    ∃ middle, disk.enterAll here first = .ok middle := by
  obtain ⟨rest, rfl⟩ := begins
  rw [enterAll_append] at reached
  cases early : disk.enterAll here first with
  | error problem => simp [early] at reached
  | ok middle => exact ⟨middle, rfl⟩

/-- The last name of a path stands after the others. -/
theorem names_eq_concat {path : Path} {last : List Char} (isLast : (names path).getLast? = some last) :
    names path = (names path).dropLast ++ [last] := by
  obtain ⟨others, whole⟩ := List.getLast?_eq_some_iff.mp isLast
  rw [whole, List.dropLast_concat]

/-- The last name is entered where the others lead, so a walk can be taken one name at a time. -/
theorem enterAll_concat_eq_ok_iff (disk : Disk) (here location : Location)
    (entered : List (List Char)) (name : List Char) :
    disk.enterAll here (entered ++ [name]) = .ok location ↔
      ∃ directory, disk.enterAll here entered = .ok directory ∧
        disk.enter directory name = .ok location := by
  rw [enterAll_append]
  cases disk.enterAll here entered with
  | error problem => simp
  | ok directory =>
    simp only [enterAll, Except.ok.injEq, exists_eq_left']
    cases disk.enter directory name <;> simp

/-- The name that a path ends under is its last one, in the directory that the others lead to. -/
theorem follow_name {disk : Disk} {path : Path} {directory : Location} {name : List Char}
    {slash : Bool} (followed : disk.follow path = .ok (.name directory name slash)) :
    Followable path ∧ (names path).getLast? = some name ∧ name ≠ ['.'] ∧ name ≠ ['.', '.'] ∧
      disk.enterAll (disk.startOf path) (names path).dropLast = .ok directory := by
  obtain ⟨followable, ⟨_, impossible⟩ | ⟨last, reached, isLast, entered, ends⟩⟩ :=
    (follow_eq_ok_iff disk path _).mp followed
  · cases impossible
  · by_cases dot : last = ['.']
    · rw [if_pos dot] at ends
      cases ends
    · by_cases dots : last = ['.', '.']
      · rw [if_neg dot, if_pos dots] at ends
        cases ends
      · rw [if_neg dot, if_neg dots] at ends
        obtain ⟨rfl, rfl, _⟩ := Ending.name.inj ends
        exact ⟨followable, isLast, dot, dots, entered⟩

/-- Where a path ends under the name of a directory, its names lead there. -/
theorem enterAll_names {disk : Disk} {path : Path} {directory : Location} {name : List Char}
    {slash : Bool} (followed : disk.follow path = .ok (.name directory name slash))
    (short : (Utf8.encode name).length ≤ nameLimit) (there : disk.HasDirectory (name :: directory)) :
    disk.enterAll (disk.startOf path) (names path) = .ok (name :: directory) := by
  obtain ⟨_, isLast, noDot, noDots, entered⟩ := follow_name followed
  rw [names_eq_concat isLast, enterAll_concat_eq_ok_iff]
  exact ⟨directory, entered,
    (enter_name_eq_ok_iff disk directory _ noDot noDots).mpr ⟨short, there, rfl⟩⟩

/-- Where a path ends without a name, its names lead there. -/
theorem follow_unnamed {disk : Disk} {path : Path} {location : Location}
    (followed : disk.follow path = .ok (.unnamed location)) :
    Followable path ∧ disk.enterAll (disk.startOf path) (names path) = .ok location := by
  obtain ⟨followable, ⟨noName, same⟩ | ⟨last, directory, isLast, entered, ends⟩⟩ :=
    (follow_eq_ok_iff disk path _).mp followed
  · obtain rfl := Ending.unnamed.inj same
    rw [List.getLast?_eq_none_iff] at noName
    exact ⟨followable, by rw [noName]; rfl⟩
  · rw [names_eq_concat isLast, enterAll_concat_eq_ok_iff]
    refine ⟨followable, directory, entered, ?_⟩
    by_cases dot : last = ['.']
    · rw [if_pos dot] at ends
      obtain rfl := Ending.unnamed.inj ends
      simp [enter, dot]
    · by_cases dots : last = ['.', '.']
      · rw [if_neg dot, if_pos dots] at ends
        obtain rfl := Ending.unnamed.inj ends
        simp [enter, dots]
      · rw [if_neg dot, if_neg dots] at ends
        cases ends

/-- A path that ends without a name leads to a directory. -/
theorem WellFormed.isDirectory_unnamed {disk : Disk} (wellFormed : disk.WellFormed) {path : Path}
    {location : Location} (followed : disk.follow path = .ok (.unnamed location)) :
    disk.isDirectory path = true := by
  obtain ⟨mode, found⟩ := wellFormed.hasDirectory_unnamed followed
  simp [isDirectory, find, followed, found]

/-- A path that ends under a name leads to a directory exactly when that name is entered. -/
theorem isDirectory_name_iff {disk : Disk} {path : Path} {directory : Location}
    {name : List Char} {slash : Bool}
    (followed : disk.follow path = .ok (.name directory name slash)) :
    disk.isDirectory path = true ↔
      (Utf8.encode name).length ≤ nameLimit ∧ disk.HasDirectory (name :: directory) := by
  simp only [isDirectory, find, followed, child?, HasDirectory]
  by_cases long : nameLimit < (Utf8.encode name).length
  · simp only [if_pos long, Bool.false_eq_true, false_iff, not_and]
    omega
  · have short : (Utf8.encode name).length ≤ nameLimit := by omega
    simp only [if_neg long, short, true_and]
    cases disk.node? (name :: directory) with
    | none => simp
    | some node =>
      cases node with
      | directory mode => simp
      | file mode bytes => cases slash <;> simp

/-- A path leads to a directory exactly when it can be followed and all its names are entered. -/
theorem WellFormed.isDirectory_iff {disk : Disk} (wellFormed : disk.WellFormed) (path : Path) :
    disk.isDirectory path = true ↔
      Followable path ∧ ∃ location, disk.enterAll (disk.startOf path) (names path) = .ok location := by
  constructor
  · intro isDirectory
    cases followed : disk.follow path with
    | error problem => simp [Disk.isDirectory, find, followed] at isDirectory
    | ok ending =>
      cases ending with
      | unnamed location =>
        obtain ⟨followable, entered⟩ := follow_unnamed followed
        exact ⟨followable, location, entered⟩
      | name directory name slash =>
        obtain ⟨short, there⟩ := (isDirectory_name_iff followed).mp isDirectory
        exact ⟨(follow_name followed).1, _, enterAll_names followed short there⟩
  · rintro ⟨followable, location, reached⟩
    cases isLast : (names path).getLast? with
    | none =>
      have followed := (follow_eq_ok_iff disk path (.unnamed (disk.startOf path))).mpr
        ⟨followable, .inl ⟨isLast, rfl⟩⟩
      exact wellFormed.isDirectory_unnamed followed
    | some last =>
      rw [names_eq_concat isLast, enterAll_concat_eq_ok_iff] at reached
      obtain ⟨directory, entered, step⟩ := reached
      have followed := (follow_eq_ok_iff disk path _).mpr
        ⟨followable, .inr ⟨last, directory, isLast, entered, rfl⟩⟩
      by_cases dot : last = ['.']
      · rw [if_pos dot] at followed
        exact wellFormed.isDirectory_unnamed followed
      · by_cases dots : last = ['.', '.']
        · rw [if_neg dot, if_pos dots] at followed
          exact wellFormed.isDirectory_unnamed followed
        · rw [if_neg dot, if_neg dots] at followed
          obtain ⟨short, there, _⟩ := (enter_name_eq_ok_iff disk directory _ dot dots).mp step
          exact (isDirectory_name_iff followed).mpr ⟨short, there⟩

/-- Where a path leads to a directory, so does every beginning of it. -/
theorem WellFormed.isDirectory_of_begins {disk : Disk} (wellFormed : disk.WellFormed)
    {first path : Path} (begins : Begins first path) (filled : first ≠ [])
    (isDirectory : disk.isDirectory path = true) : disk.isDirectory first = true := by
  obtain ⟨followable, location, reached⟩ := (wellFormed.isDirectory_iff path).mp isDirectory
  refine (wellFormed.isDirectory_iff first).mpr ⟨followable.begins begins filled, ?_⟩
  rw [startOf, begins.rooted]
  exact enterAll_of_prefix begins.names reached

/-- A directory at a path is something at that path. -/
theorem isDirectory_isThere {disk : Disk} {path : Path} (isDirectory : disk.isDirectory path = true) :
    disk.isThere path = true := by
  unfold Disk.isDirectory at isDirectory
  split at isDirectory
  next found => simp [isThere, found, Except.isOk, Except.toBool]
  next => cases isDirectory

/-- A name stands alone between slashes: it is not empty and has no slash in it. -/
structure IsName (name : List Char) : Prop where
  filled : name ≠ []
  noSlash : ∀ c ∈ name, (c == '/') = false

/-- A single name, read as a path, walks through that name alone. -/
theorem IsName.alone {name : List Char} (isName : IsName name) : names name = [name] := by
  have one : Path.segments name = [name] := fields_of_none isName.noSlash
  simp [names, one, isName.filled]

/-- A single name is never a path from the root, since it holds no slash. -/
theorem IsName.not_isRooted {name : List Char} (isName : IsName name) :
    Path.isRooted name = false := by
  obtain ⟨c, rest, rfl⟩ := List.exists_cons_of_ne_nil isName.filled
  simpa [Path.isRooted] using isName.noSlash c List.mem_cons_self

/-- A name joined to a path is its last one. -/
theorem names_join (path : Path) {name : List Char} (isName : IsName name) :
    names (path.join name) = names path ++ [name] := by
  unfold Path.join
  rw [if_neg (by simp [isName.not_isRooted])]
  split
  next bare =>
    rw [Bool.or_eq_true, List.isEmpty_iff, beq_iff_eq] at bare
    rcases bare with rfl | ends
    · exact isName.alone
    · obtain ⟨others, rfl⟩ := List.getLast?_eq_some_iff.mp ends
      have nothing : names [] = [] := by decide
      rw [names_append, nothing, List.append_nil, List.append_assoc, List.singleton_append,
        names_append, isName.alone]
  next => rw [names_append, isName.alone]

/-- A path is a beginning of what is joined to it, unless it is empty. -/
theorem begins_join {path : Path} (filled : path ≠ []) {name : List Char} (isName : IsName name) :
    Begins path (path.join name) := by
  have text : path <+: path.join name := by
    unfold Path.join
    rw [if_neg (by simp [isName.not_isRooted])]
    split <;> exact List.prefix_append _ _
  refine ⟨text, ?_, ?_⟩
  · rw [names_join path isName]
    exact List.prefix_append _ _
  · obtain ⟨rest, whole⟩ := text
    obtain ⟨c, others, rfl⟩ := List.exists_cons_of_ne_nil filled
    rw [← whole]
    rfl

/-- The segment that gives the last name has none but empty ones after it. -/
theorem segments_of_getLast? {path : Path} {name : List Char}
    (isLast : (names path).getLast? = some name) :
    ∃ before after, path.segments = before ++ name :: after ∧ name ≠ [] ∧
      ∀ segment ∈ after, segment = [] := by
  obtain ⟨others, whole⟩ := List.getLast?_eq_some_iff.mp isLast
  obtain ⟨first, second, split, _, named⟩ := List.filter_eq_append_iff.mp whole
  obtain ⟨skipped, after, found, _, filled, none⟩ := List.filter_eq_cons_iff.mp named
  refine ⟨first ++ skipped, after, by rw [split, found, List.append_assoc], by simpa using filled,
    fun segment member => ?_⟩
  simpa using List.filter_eq_nil_iff.mp none segment member

/-- The last name of a path is its file name, unless it is a dot or two dots. -/
theorem fileName?_of_getLast? {path : Path} {name : List Char}
    (isLast : (names path).getLast? = some name) (noDot : name ≠ ['.'])
    (noDots : name ≠ ['.', '.']) : path.fileName? = some name := by
  obtain ⟨before, after, split, filled, empty⟩ := segments_of_getLast? isLast
  have tells : path.tells before.length name = true := by
    unfold Path.tells
    split <;> simp [filled, noDot]
  have telling : path.tellingSegments.getLast? = some (name, before.length) := by
    rw [Path.tellingSegments, List.getLast?_reverse, split, List.zipIdx_append, List.zipIdx_cons,
      List.reverse_append, List.reverse_cons, List.append_assoc, List.dropWhile_append_of_pos]
    · simp [tells]
    · -- what comes after the name tells nothing
      rintro ⟨segment, index⟩ member
      have place := List.mem_zipIdx (List.mem_reverse.mp member)
      have nothing : segment = [] := empty segment (place.2.2 ▸ List.getElem_mem _)
      have later : index ≠ 0 := by omega
      simp [Path.tells, later, nothing]
  have first : ¬ (before.length = 0 ∧ path.isRooted = true) := by
    rintro ⟨none, rooted⟩
    obtain ⟨rest, rfl⟩ : ∃ rest, path = '/' :: rest := by
      cases path with
      | nil => cases rooted
      | cons c rest =>
        rw [Path.isRooted, List.head?_cons, beq_iff_eq, Option.some.injEq] at rooted
        exact ⟨rest, by rw [rooted]⟩
    rw [List.length_eq_zero_iff.mp none, List.nil_append] at split
    have rootSplit := segments_append [] rest
    rw [List.nil_append, split] at rootSplit
    exact filled (List.cons.inj rootSplit).1
  rw [Path.fileName?, telling]
  simp only [if_neg first, noDot, noDots, or_self, if_false]

end DashboardTools.Disk
