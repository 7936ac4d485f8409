import DashboardTools.Docs.Section
import DashboardTools.Proofs.Text.Lines
import Mathlib.Data.List.Forall2

/-!
# Sections hold the documentation

The header lines of a documentation text part its other lines. What stands before the first header
belongs to nothing; every header with the lines up to the next one is one part. There is one section
for each part, in the same order, and it holds the title of the part's header and all the lines
after it. Neither the rule for headers nor the parts mention how a text is read.
-/

namespace DashboardTools.Docs

open DashboardTools.Text

/-- A line is a header with this title: one or two number signs, a blank and at least one more
character. The title is what follows the number signs, without blanks at its ends. -/
inductive IsHeader : (line title : List Char) → Prop where
  | marked (marks : List Char) (blank : Char) (rest : List Char)
    (few : marks = ['#'] ∨ marks = ['#', '#']) (isBlank : isBlank blank = true)
    (more : rest ≠ []) : IsHeader (marks ++ blank :: rest) (trim (blank :: rest))

/-- What follows the number signs decides. A blank alone is not enough; where only blanks follow it
the last of them counts as text, and the title is empty. -/
theorem headerTitle?_marked {marks : List Char} (few : marks = ['#'] ∨ marks = ['#', '#'])
    {blank : Char} (blanks : isBlank blank = true) (rest : List Char) :
    headerTitle? (marks ++ blank :: rest) =
      if rest = [] then none else some (trim (blank :: rest)) := by
  have noMark : (blank == '#') = false := by
    rw [beq_eq_false_iff_ne]
    rintro rfl
    exact absurd blanks (by decide)
  have taken : (marks ++ blank :: rest).takeWhile (· == '#') = marks := by
    rcases few with rfl | rfl <;> simp [noMark]
  have left : (marks ++ blank :: rest).dropWhile (· == '#') = blank :: rest := by
    rcases few with rfl | rfl <;> simp [noMark]
  have fits : (marks.isEmpty || decide (2 < marks.length)) = false := by
    rcases few with rfl | rfl <;> rfl
  unfold headerTitle? trim trimBy trimEnd
  rw [taken, left]
  simp only [fits, List.takeWhile_cons, List.dropWhile_cons, blanks, if_true, List.isEmpty_cons,
    Bool.or_false, Bool.false_eq_true, if_false]
  cases body : rest.dropWhile isBlank with
  | nil =>
    have allBlank : rest.takeWhile isBlank = rest := by
      have whole := List.takeWhile_append_dropWhile (p := isBlank) (l := rest)
      rwa [body, List.append_nil] at whole
    cases rest with
    | nil => rfl
    | cons c rest => simp [allBlank, dropEnd]
  | cons c body =>
    have filled : rest ≠ [] := by
      rintro rfl
      cases body
    simp [filled]

/-- A line from which a title can be read is a header, and that is its title. -/
theorem isHeader_of_headerTitle? {line title : List Char} (read : headerTitle? line = some title) :
    IsHeader line title := by
  have whole := List.takeWhile_append_dropWhile (p := (· == '#')) (l := line)
  have signs : ∀ c ∈ line.takeWhile (· == '#'), c = '#' := fun c member =>
    beq_iff_eq.mp (List.all_eq_true.mp List.all_takeWhile c member)
  have begins : (line.takeWhile (· == '#') = ['#'] ∨ line.takeWhile (· == '#') = ['#', '#']) ∧
      ∃ blank rest, line.dropWhile (· == '#') = blank :: rest ∧ isBlank blank = true := by
    unfold headerTitle? at read
    dsimp only at read
    split at read
    · cases read
    next fits =>
      simp only [Bool.or_eq_true, List.isEmpty_iff, decide_eq_true_eq, not_or] at fits
      constructor
      · have replicated := List.eq_replicate_of_mem signs
        have short : (line.takeWhile (· == '#')).length = 1 ∨
            (line.takeWhile (· == '#')).length = 2 := by
          have filled := List.length_pos_iff.mpr fits.1.1
          omega
        rcases short with one | two
        · exact .inl (by rw [replicated, one]; rfl)
        · exact .inr (by rw [replicated, two]; rfl)
      · cases after : line.dropWhile (· == '#') with
        | nil => simp [after] at fits
        | cons blank rest =>
          refine ⟨blank, rest, rfl, ?_⟩
          rw [after, List.takeWhile_cons] at fits
          by_cases blanks : isBlank blank = true
          · exact blanks
          · simp [blanks] at fits
  obtain ⟨few, blank, rest, after, blanks⟩ := begins
  rw [after] at whole
  rw [← whole, headerTitle?_marked few blanks] at read
  split at read
  · cases read
  next more =>
    rw [← whole, ← Option.some.inj read]
    exact .marked _ _ _ few blanks more

/-- The title that is read of a line is its title as a header. -/
theorem headerTitle?_eq_some_iff (line title : List Char) :
    headerTitle? line = some title ↔ IsHeader line title := by
  constructor
  · exact isHeader_of_headerTitle?
  · rintro ⟨marks, blank, rest, few, blanks, more⟩
    rw [headerTitle?_marked few blanks, if_neg more]

example : headerTitle? "##  Set up ".toList = some "Set up".toList ∧
    headerTitle? "#  ".toList = some [] ∧ headerTitle? "### Deep".toList = none := by
  decide +kernel

/-- A line is a header of some title, which may be empty. -/
def Heads (line : List Char) : Prop := ∃ title, IsHeader line title

/-- A title can be read from a line exactly when the line heads a section. -/
theorem headerTitle?_isSome_iff (line : List Char) :
    (headerTitle? line).isSome = true ↔ Heads line := by
  simp only [Option.isSome_iff_exists, headerTitle?_eq_some_iff, Heads]

/-- Whether a line heads a section is decided by reading its title. -/
instance (line : List Char) : Decidable (Heads line) :=
  decidable_of_iff _ (headerTitle?_isSome_iff line)

/-- A header line with the lines that follow it up to the next one. -/
structure Part where
  header : List Char
  body : List (List Char)

/-- The lines of a part, its header in front. -/
def Part.lines (part : Part) : List (List Char) := part.header :: part.body

/-- A section records a part: it has the title of the header, the area and the path that come with
that title, and the lines after the header, each ended by a line feed. -/
structure Records (part : Part) (entry : Section) : Prop where
  title : IsHeader part.header entry.title.toList
  category : entry.category = Category.infer entry.title
  path : entry.path = "/" ++ entry.category.name ++ "/" ++ slugify entry.title
  content : entry.content.toList = part.body.flatMap (· ++ ['\n'])

/-- Lines fall into some before the first header, which belong to nothing, and into parts. Each part
is recorded by the section in its place. -/
structure ArePartedInto (lines dropped : List (List Char)) (parts : List Part)
    (sections : List Section) : Prop where
  whole : lines = dropped ++ parts.flatMap Part.lines
  before : ∀ line ∈ dropped, ¬ Heads line
  between : ∀ part ∈ parts, ∀ line ∈ part.body, ¬ Heads line
  recorded : List.Forall₂ Records parts sections

/-- The section made of a header's title and the lines below it records that part of the text. -/
theorem records_ofHeader {header title : List Char} (heads : IsHeader header title)
    (body : List (List Char)) :
    Records ⟨header, body⟩ (Section.ofHeader title (body.flatMap (· ++ ['\n']))) where
  title := by simpa [Section.ofHeader] using heads
  category := rfl
  path := rfl
  content := by simp [Section.ofHeader]

/-- The lines that are split part into sections. The induction is on the lines from the last one
back: a header makes a part of the lines that had no header yet, and any other line joins them. -/
theorem splitSections_parts (lines : List (List Char)) : ∃ dropped parts,
    (splitSections lines).1 = dropped.flatMap (· ++ ['\n']) ∧
      ArePartedInto lines dropped parts (splitSections lines).2 := by
  induction lines with
  | nil => exact ⟨[], [], rfl, rfl, by simp, by simp, .nil⟩
  | cons line rest inductionHypothesis =>
    obtain ⟨dropped, parts, content, whole, before, between, recorded⟩ := inductionHypothesis
    cases heads : headerTitle? line with
    | some title =>
      have isHeader := (headerTitle?_eq_some_iff line title).mp heads
      refine ⟨[], ⟨line, dropped⟩ :: parts, ?_, ?_, by simp, ?_, ?_⟩
      · simp [splitSections, heads]
      · simp [whole, Part.lines]
      · intro part member
        rcases List.mem_cons.mp member with rfl | later
        · exact before
        · exact between part later
      · simp only [splitSections, heads, content]
        exact .cons (records_ofHeader isHeader dropped) recorded
    | none =>
      have noHeader : ¬ Heads line := by
        rw [← headerTitle?_isSome_iff, heads]
        exact Bool.false_ne_true
      refine ⟨line :: dropped, parts, ?_, ?_, ?_, between, ?_⟩
      · simp [splitSections, heads, content]
      · simp [whole]
      · intro other member
        rcases List.mem_cons.mp member with rfl | later
        · exact noHeader
        · exact before other later
      · simpa [splitSections, heads] using recorded

/-- Every section records some part, so no section is made of anything but lines of the text. -/
theorem ArePartedInto.exists_part {lines dropped : List (List Char)} {parts : List Part}
    {sections : List Section} (parted : ArePartedInto lines dropped parts sections)
    {entry : Section} (member : entry ∈ sections) : ∃ part, Records part entry := by
  obtain ⟨place, inside, rfl⟩ := List.getElem_of_mem member
  have paired := List.forall₂_iff_get.mp parted.recorded
  exact ⟨_, paired.2 place (paired.1 ▸ inside) inside⟩

/-- Of the lines of a part the header alone is one. -/
theorem Records.headers {part : Part} {entry : Section} (records : Records part entry)
    (between : ∀ line ∈ part.body, ¬ Heads line) :
    part.lines.filter (Heads ·) = [part.header] := by
  have heads : Heads part.header := ⟨_, records.title⟩
  rw [Part.lines, List.filter_cons_of_pos (by simpa using heads), List.filter_eq_nil_iff.mpr]
  intro line member
  simpa using between line member

/-- The headers of parted lines are the headers of the parts, in their order. -/
theorem ArePartedInto.headers {lines dropped : List (List Char)} {parts : List Part}
    {sections : List Section} (parted : ArePartedInto lines dropped parts sections) :
    lines.filter (Heads ·) = parts.map Part.header := by
  obtain ⟨rfl, before, between, recorded⟩ := parted
  have none : dropped.filter (Heads ·) = [] :=
    List.filter_eq_nil_iff.mpr fun line member => by simpa using before line member
  rw [List.filter_append, none, List.nil_append]
  clear none before
  induction recorded with
  | nil => rfl
  | cons records _ inductionHypothesis =>
    rw [List.flatMap_cons, List.filter_append, List.map_cons,
      records.headers (between _ List.mem_cons_self),
      inductionHypothesis fun part member => between part (List.mem_cons_of_mem _ member)]
    rfl

/-- The sections of a documentation text hold it: its lines fall into those before the first header
and one part for each header, and the sections record these parts one by one. -/
theorem sections_hold_the_text (raw : String) : ∃ lines dropped parts,
    ConsistsOf raw.toList lines ∧ ArePartedInto lines dropped parts (parseSections raw) ∧
      parts.map Part.header = lines.filter (Heads ·) ∧
      (parseSections raw).length = (lines.filter (Heads ·)).length := by
  obtain ⟨dropped, parts, _, parted⟩ := splitSections_parts (Text.lines raw.toList)
  refine ⟨Text.lines raw.toList, dropped, parts, (consistsOf_iff _ _).mpr rfl, parted,
    parted.headers.symm, ?_⟩
  rw [parted.headers, List.length_map]
  exact parted.recorded.length_eq.symm

end DashboardTools.Docs
