import DashboardTools.Docs.Client
import DashboardTools.Proofs.Docs.Sections

/-!
# Looking up what a search shows

A page is looked up by its whole path, and failing that by the last segment of it. The paths of
sections are made so that the first way always finds what a search shows: they begin with the slash
that is supplied where it is missing, and a slug has no slash of its own. The second way finds a
section wherever the last segment is a slug, and finds nothing for an empty one. Several sections
may have one path; the first of them is the one that is found.
-/

namespace DashboardTools.Docs

open DashboardTools.Text

/-- The path of a section that is read: a slash, the area's name, a slash and the title's slug. -/
theorem path_of_mem_parseSections {raw : String} {entry : Section}
    (member : entry ∈ parseSections raw) :
    entry.path.toList =
      '/' :: (entry.category.name.toList ++ '/' :: (slugify entry.title).toList) := by
  obtain ⟨_, parts, _, parted⟩ := splitSections_parts (lines raw.toList)
  obtain ⟨part, records⟩ := parted.exists_part member
  simp [records.path]

/-- The name of a category never begins with a slash, since it is one of four words. -/
theorem Category.slash_not_head (category : Category) (rest : List Char) :
    (category.name.toList ++ rest).head? ≠ some '/' := by
  cases category <;> simp [Category.name]

/-- A path that already begins at the root is rooted as it is. -/
theorem rootedPath_of_slash {path : String} (rooted : path.toList.head? = some '/') :
    rootedPath path = path := by
  unfold rootedPath
  split
  · rfl
  next other =>
    cases text : path.toList with
    | nil => simp [text] at rooted
    | cons c rest =>
      obtain rfl : c = '/' := by simpa [text] using rooted
      exact absurd text (other rest)

/-- A path without a slash in front gets one, since the paths of sections all have one. -/
theorem rootedPath_of_not_slash {path : String} (bare : path.toList.head? ≠ some '/') :
    rootedPath path = "/" ++ path := by
  unfold rootedPath
  split
  next rest text => simp [text] at bare
  · rfl

/-- A section's path is found with and without the slash that it begins with. -/
theorem rootedPath_of_mem_parseSections {raw : String} {entry : Section}
    (member : entry ∈ parseSections raw) {path : String}
    (named : path = entry.path ∨ "/" ++ path = entry.path) : rootedPath path = entry.path := by
  have whole := path_of_mem_parseSections member
  rcases named with rfl | short
  · exact rootedPath_of_slash (by rw [whole, List.head?_cons])
  · have bare : path.toList =
        entry.category.name.toList ++ '/' :: (slugify entry.title).toList := by
      have text := congrArg String.toList short
      rw [whole, String.toList_append] at text
      exact List.cons.inj text |>.2
    rw [rootedPath_of_not_slash, short]
    rw [bare]
    exact entry.category.slash_not_head _

/-- The last segment of a path: what is left after all slashes, or all of a path without any. -/
def IsLastSegment (path segment : List Char) : Prop :=
  '/' ∉ segment ∧ (path = segment ∨ ∃ before, path = before ++ '/' :: segment)

/-- The last segment of a path is what the look-up by slug compares: all that follows its last
slash. -/
theorem lastSegment_eq {path : String} {segment : List Char}
    (last : IsLastSegment path.toList segment) : lastSegment path = segment := by
  obtain ⟨plain, whole⟩ := last
  have taken : ∀ c ∈ segment.reverse, (c != '/') = true := by
    intro c member
    have inside : c ∈ segment := List.mem_reverse.mp member
    exact bne_iff_ne.mpr fun same => plain (same ▸ inside)
  have backwards : ∃ rest, path.toList.reverse = segment.reverse ++ rest ∧
      rest.takeWhile (· != '/') = [] := by
    rcases whole with same | ⟨before, split⟩
    · exact ⟨[], by rw [same, List.append_nil], rfl⟩
    · exact ⟨'/' :: before.reverse, by rw [split]; simp, rfl⟩
  obtain ⟨rest, split, stops⟩ := backwards
  rw [lastSegment, split, List.takeWhile_append_of_pos taken, stops, List.append_nil,
    List.reverse_reverse]

/-- The slash that a path is given is none of its last segment. -/
theorem isLastSegment_rootedPath {path : String} {segment : List Char}
    (last : IsLastSegment path.toList segment) :
    IsLastSegment (rootedPath path).toList segment := by
  by_cases slash : path.toList.head? = some '/'
  · rwa [rootedPath_of_slash slash]
  · rw [rootedPath_of_not_slash slash, String.toList_append]
    obtain ⟨plain, same | ⟨before, split⟩⟩ := last
    · exact ⟨plain, .inr ⟨[], by rw [same]; rfl⟩⟩
    · exact ⟨plain, .inr ⟨"/".toList ++ before, by rw [split, List.append_assoc]⟩⟩

/-- Among the sections this is the first with a path. -/
def IsFirstWith (sections : List Section) (path : String) (entry : Section) : Prop :=
  ∃ earlier later, sections = earlier ++ entry :: later ∧ entry.path = path ∧
    ∀ other ∈ earlier, other.path ≠ path

/-- The first section with a path is the one that a search from the front finds. -/
theorem isFirstWith_iff (sections : List Section) (path : String) (entry : Section) :
    IsFirstWith sections path entry ↔ sections.find? (·.path == path) = some entry := by
  rw [List.find?_eq_some_iff_append]
  simp only [IsFirstWith, beq_iff_eq, Bool.not_eq_true', beq_eq_false_iff_ne]
  constructor
  · rintro ⟨earlier, later, split, named, fresh⟩
    exact ⟨named, earlier, later, split, fresh⟩
  · rintro ⟨named, earlier, later, split, fresh⟩
    exact ⟨earlier, later, split, named, fresh⟩

/-- The page that a section makes, with blanks taken from the ends of its content. -/
def Section.page (entry : Section) : Page :=
  ⟨entry.path, entry.title, .ofList (trim entry.content.toList), entry.category⟩

/-- A text's page under a path is that of the section found there. -/
theorem pageOfText_of_find {raw path : String} {found : Section}
    (finds : findSection? (parseSections raw) path = some found) :
    pageOfText raw path = .ok found.page := by
  unfold pageOfText
  rw [finds]
  rfl

/-- Where some section has the whole path, the first of those is found. -/
theorem findSection?_of_first {sections : List Section} {path : String} {entry : Section}
    (first : IsFirstWith sections (rootedPath path) entry) :
    findSection? sections path = some entry := by
  unfold findSection?
  dsimp only
  rw [(isFirstWith_iff _ _ _).mp first]

/-- Where none has it, the last segment is looked for. -/
theorem findSection?_of_unnamed {sections : List Section} {path : String}
    (unnamed : ∀ entry ∈ sections, entry.path ≠ rootedPath path) {segment : List Char}
    (last : IsLastSegment path.toList segment) :
    findSection? sections path =
      if segment.isEmpty then none
      else sections.find? fun entry => occursIn segment entry.path.toList := by
  have nowhere : sections.find? (·.path == rootedPath path) = none := by
    rw [List.find?_eq_none]
    intro entry member
    simpa using unnamed entry member
  unfold findSection?
  dsimp only
  rw [nowhere, lastSegment_eq (isLastSegment_rootedPath last)]

/-- Where some section has a path, there is a first one that has it. -/
theorem exists_first {sections : List Section} {entry : Section} (member : entry ∈ sections) :
    ∃ first, IsFirstWith sections entry.path first := by
  simp only [isFirstWith_iff]
  exact Option.isSome_iff_exists.mp (List.find?_isSome.mpr ⟨entry, member, beq_self_eq_true _⟩)

/-- A hit shows a section: it has the title, the path and the area of that section. -/
structure Shows (entry : Section) (hit : Hit) : Prop where
  title : hit.title = entry.title
  path : hit.path = entry.path
  category : hit.category = entry.category

/-- The hit made of a section shows that section's title, path and category. -/
theorem shows_of_hit? {terms : List (List Char)} {firstTerm : List Char} {entry : Section}
    {hit : Hit} (made : entry.hit? terms firstTerm = some hit) : Shows entry hit := by
  unfold Section.hit? at made
  dsimp only at made
  split at made
  · obtain rfl := Option.some.inj made
    exact ⟨rfl, rfl, rfl⟩
  · cases made

/-- Every hit shows one of the sections that are searched. -/
theorem exists_shown {sections : List Section} {query : String} {category? : Option Category}
    {limit : Nat} {hit : Hit} (member : hit ∈ search sections query category? limit) :
    ∃ entry ∈ sections, Shows entry hit := by
  unfold search at member
  split at member
  · cases member
  · have found := List.mem_mergeSort.mp (List.mem_of_mem_take member)
    obtain ⟨entry, searched, made⟩ := List.mem_filterMap.mp found
    exact ⟨entry, (List.mem_filter.mp searched).1, shows_of_hit? made⟩

/-- The page of a hit is looked up by a path: it is the one of the first section with the hit's own
path, and has the hit's title unless an earlier section has that path. -/
structure LeadsToHit (raw : String) (hit : Hit) (path : String) : Prop where
  found : ∃ entry, IsFirstWith (parseSections raw) hit.path entry ∧
    pageOfText raw path = .ok entry.page
  shown : ∃ entry ∈ parseSections raw, Shows entry hit
  title : ∀ entry, Shows entry hit → IsFirstWith (parseSections raw) hit.path entry →
    ∃ page, pageOfText raw path = .ok page ∧ page.title = hit.title

/-- A hit that shows a section of a text leads to its page, by its path with or without the leading
slash. -/
theorem leadsToHit_of_shown {raw : String} {entry : Section} (member : entry ∈ parseSections raw)
    {hit : Hit} (shows : Shows entry hit) {path : String}
    (named : path = hit.path ∨ "/" ++ path = hit.path) : LeadsToHit raw hit path := by
  rw [shows.path] at named
  have rooted : rootedPath path = hit.path :=
    (rootedPath_of_mem_parseSections member named).trans shows.path.symm
  have page {first : Section} (isFirst : IsFirstWith (parseSections raw) hit.path first) :
      pageOfText raw path = .ok first.page :=
    pageOfText_of_find (findSection?_of_first (by rwa [rooted]))
  refine ⟨?_, ⟨entry, member, shows⟩, fun other showsOther isFirst => ?_⟩
  · obtain ⟨first, isFirst⟩ := exists_first member
    rw [← shows.path] at isFirst
    exact ⟨first, isFirst, page isFirst⟩
  · exact ⟨other.page, page isFirst, showsOther.title.symm⟩

/-- What can be looked up in a documentation text, after a search and by the slug of a title. -/
structure IsLookedUp (raw : String) : Prop where
  /-- What a search shows is found by its path, with the first slash or without it. -/
  hits : ∀ query category? limit?, ∀ hit ∈ searchText raw query category? limit?,
    ∀ path, path = hit.path ∨ "/" ++ path = hit.path → LeadsToHit raw hit path
  /-- Any path that ends in a section's slug finds a section whose path has the slug in it. -/
  slugs : ∀ entry ∈ parseSections raw, slugify entry.title ≠ "" →
    ∀ path : String, IsLastSegment path.toList (slugify entry.title).toList →
      ∃ found ∈ parseSections raw, pageOfText raw path = .ok found.page ∧
        (slugify entry.title).toList <:+: found.path.toList
  /-- A path that is no section's and ends in a slash, or is empty, finds nothing. -/
  nothing : ∀ path : String, (∀ entry ∈ parseSections raw, entry.path ≠ rootedPath path) →
    IsLastSegment path.toList [] → pageOfText raw path = .error (.docNotFound path)

/-- A path that ends in a slug finds a section with the slug in its path. -/
theorem exists_page_of_slug {raw : String} {entry : Section} (member : entry ∈ parseSections raw)
    (filled : slugify entry.title ≠ "") {path : String}
    (last : IsLastSegment path.toList (slugify entry.title).toList) :
    ∃ found ∈ parseSections raw, pageOfText raw path = .ok found.page ∧
      (slugify entry.title).toList <:+: found.path.toList := by
  by_cases named : ∃ other ∈ parseSections raw, other.path = rootedPath path
  · -- The whole path is a section's, and its own last segment is the slug.
    obtain ⟨other, there, same⟩ := named
    obtain ⟨first, isFirst⟩ := exists_first there
    rw [same] at isFirst
    refine ⟨first, ?_, pageOfText_of_find (findSection?_of_first isFirst), ?_⟩
    · obtain ⟨earlier, later, split, _⟩ := isFirst
      rw [split]
      exact List.mem_append_right _ List.mem_cons_self
    · obtain ⟨_, _, _, path, _⟩ := isFirst
      rw [path]
      obtain ⟨_, whole | ⟨before, split⟩⟩ := isLastSegment_rootedPath last
      · exact ⟨[], [], by simp [whole]⟩
      · exact ⟨before ++ ['/'], [], by rw [split]; simp⟩
  · -- Otherwise the slug is looked for, and at least its own section has it.
    have unnamed : ∀ other ∈ parseSections raw, other.path ≠ rootedPath path :=
      fun other there same => named ⟨other, there, same⟩
    have filledList : (slugify entry.title).toList.isEmpty = false := by
      simpa using filled
    have looked := findSection?_of_unnamed unnamed last
    rw [filledList, if_neg Bool.false_ne_true] at looked
    have inOwn : occursIn (slugify entry.title).toList entry.path.toList = true := by
      rw [occursIn_iff, path_of_mem_parseSections member]
      exact ⟨'/' :: (entry.category.name.toList ++ ['/']), [], by simp⟩
    have findable : ((parseSections raw).find? fun other =>
        occursIn (slugify entry.title).toList other.path.toList).isSome = true :=
      List.find?_isSome.mpr ⟨entry, member, inOwn⟩
    obtain ⟨found, finds⟩ := Option.isSome_iff_exists.mp findable
    have occurs := List.find?_some finds
    exact ⟨found, List.mem_of_find?_eq_some finds, pageOfText_of_find (looked.trans finds),
      occursIn_iff.mp occurs⟩

/-- In every documentation text whatever a search shows can be looked up. -/
theorem shown_sections_are_looked_up (raw : String) : IsLookedUp raw where
  hits query category? limit? hit member path named := by
    obtain ⟨entry, there, shows⟩ := exists_shown member
    exact leadsToHit_of_shown there shows named
  slugs entry member filled path last := exists_page_of_slug member filled last
  nothing path unnamed last := by
    unfold pageOfText
    rw [findSection?_of_unnamed unnamed last]
    rfl

end DashboardTools.Docs
