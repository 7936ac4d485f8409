import DashboardTools.Proofs.Docs.Sections
import DashboardTools.Proofs.Text.Trimming

/-!
# Lines that open a section

A line opens a section in a text when the text has one section more for it, between the sections of
the lines above it and those of the lines below. Which lines do so is decided by the line alone,
wherever it stands: one or two number signs, a blank and at least one more character. All other
lines open none.
-/

namespace DashboardTools.Docs

open DashboardTools.Text

/-- The lines of a text are those of one text, a line, and those of another text. -/
def StandsBetween (line : List Char) (above below raw : String) : Prop :=
  ∃ linesAbove linesBelow, ConsistsOf above.toList linesAbove ∧
    ConsistsOf below.toList linesBelow ∧ ConsistsOf raw.toList (linesAbove ++ line :: linesBelow)

/-- With both characters of an ending after each of them, lines make up a text. -/
theorem consistsOf_ended {lines : List (List Char)} (clean : ∀ line ∈ lines, '\n' ∉ line) :
    ConsistsOf (lines.flatMap (· ++ ['\r', '\n'])) lines := by
  induction lines with
  | nil => exact .nothing
  | cons line lines inductionHypothesis =>
    have later := inductionHypothesis fun other member => clean other (List.mem_cons_of_mem _ member)
    have ended := ConsistsOf.ended (line ++ ['\r']) _ _
      (by simpa using clean line List.mem_cons_self) later
    have cut : dropReturn (line ++ ['\r']) = line := by simp [dropReturn]
    rw [cut] at ended
    simpa using ended

/-- Every line stands between any two texts in some text. -/
theorem exists_standsBetween {line : List Char} (clean : '\n' ∉ line) (above below : String) :
    ∃ raw, StandsBetween line above below raw := by
  have noFeed (text : String) : ∀ other ∈ lines text.toList, '\n' ∉ other := fun _ member =>
    newline_not_mem_of_mem_linesAfter List.not_mem_nil member
  have all : ∀ other ∈ lines above.toList ++ line :: lines below.toList, '\n' ∉ other := by
    intro other member
    rcases List.mem_append.mp member with inAbove | here
    · exact noFeed above other inAbove
    · rcases List.mem_cons.mp here with rfl | inBelow
      · exact clean
      · exact noFeed below other inBelow
  have ended := consistsOf_ended all
  rw [← String.toList_ofList (l := List.flatMap _ _)] at ended
  exact ⟨_, _, _, (consistsOf_iff _ _).mpr rfl, (consistsOf_iff _ _).mpr rfl, ended⟩

/-- Lines of a text around one line are the lines above, that line, and the lines below. A break
after the line ends it and opens no line of its own. -/
theorem StandsBetween.lines_eq {line : List Char} {above below raw : String}
    (stands : StandsBetween line above below raw) :
    lines raw.toList = lines above.toList ++ line :: lines below.toList := by
  obtain ⟨_, _, isAbove, isBelow, is⟩ := stands
  rw [(consistsOf_iff _ _).mp isAbove, (consistsOf_iff _ _).mp isBelow, (consistsOf_iff _ _).mp is]

/-- The titles are those of the header lines, in their order. -/
theorem splitSections_titles (lines : List (List Char)) :
    (splitSections lines).2.map (·.title.toList) = lines.filterMap headerTitle? := by
  induction lines with
  | nil => rfl
  | cons line rest inductionHypothesis =>
    cases heads : headerTitle? line with
    | none => simp [splitSections, heads, inductionHypothesis]
    | some title => simp [splitSections, heads, inductionHypothesis, Section.ofHeader]

/-- Lines whose first one is a header add their sections to those of the lines above them, and
change none of these. -/
theorem splitSections_append {below : List (List Char)} (opens : (splitSections below).1 = [])
    (above : List (List Char)) : splitSections (above ++ below) =
      ((splitSections above).1, (splitSections above).2 ++ (splitSections below).2) := by
  induction above with
  | nil => exact Prod.ext opens rfl
  | cons line above inductionHypothesis =>
    rw [List.cons_append, splitSections, inductionHypothesis, splitSections]
    cases headerTitle? line <;> rfl

/-- The sections of a text in which a header stands. -/
theorem parseSections_of_header {line title : List Char} {above below raw : String}
    (stands : StandsBetween line above below raw) (heads : IsHeader line title) :
    parseSections raw = parseSections above ++
      Section.ofHeader title (splitSections (lines below.toList)).1 :: parseSections below := by
  have read := (headerTitle?_eq_some_iff line title).mpr heads
  have opens : splitSections (line :: lines below.toList) =
      ([], Section.ofHeader title (splitSections (lines below.toList)).1 ::
        (splitSections (lines below.toList)).2) := by
    rw [splitSections, read]
  rw [parseSections, stands.lines_eq, splitSections_append (by rw [opens]), opens]
  rfl

/-- The titles of a text in which a line stands. -/
theorem parseSections_titles {line : List Char} {above below raw : String}
    (stands : StandsBetween line above below raw) :
    (parseSections raw).map (·.title.toList) = (parseSections above).map (·.title.toList) ++
      ((headerTitle? line).toList ++ (parseSections below).map (·.title.toList)) := by
  simp only [parseSections, splitSections_titles, stands.lines_eq, List.filterMap_append]
  cases read : headerTitle? line <;> simp [read]

/-- A text follows the one or two number signs of a line. It begins with a blank, and goes on after
that. -/
def FollowsMarks (line text : List Char) : Prop :=
  ∃ marks blank rest, (marks = ['#'] ∨ marks = ['#', '#']) ∧ isBlank blank = true ∧ rest ≠ [] ∧
    text = blank :: rest ∧ line = marks ++ text

/-- A text has this section between those of the text above and those of the text below. -/
def OpensSection (above below raw : String) (entry : Section) : Prop :=
  parseSections raw = parseSections above ++ entry :: parseSections below

/-- A line is a header exactly when marks and a blank are followed by some text, and the title is
that text without the blanks at its ends. -/
theorem isHeader_iff (line title : List Char) :
    IsHeader line title ↔ ∃ text, FollowsMarks line text ∧ IsTrimmed isBlank text title := by
  constructor
  · rintro ⟨marks, blank, rest, few, isBlank, more⟩
    exact ⟨_, ⟨marks, blank, rest, few, isBlank, more, rfl, rfl⟩, isTrimmed_trim _⟩
  · rintro ⟨_, ⟨marks, blank, rest, few, isBlank, more, rfl, rfl⟩, isTrimmed⟩
    rw [← (isTrimmed_iff _ _).mp isTrimmed]
    exact .marked marks blank rest few isBlank more

/-- The section that a line opens tells what the line is. -/
theorem isHeader_of_opensSection {line : List Char} {above below raw : String}
    (stands : StandsBetween line above below raw) {entry : Section}
    (opens : OpensSection above below raw entry) : IsHeader line entry.title.toList := by
  have titles := parseSections_titles stands
  rw [opens, List.map_append, List.map_cons, List.append_cancel_left_eq,
    ← List.singleton_append, List.append_cancel_right_eq] at titles
  rw [← headerTitle?_eq_some_iff]
  cases read : headerTitle? line with
  | none => simp [read] at titles
  | some title => simpa [read, eq_comm] using titles

/-- Wherever a line stands, it opens a section exactly when one or two number signs, a blank and at
least one more character make it up, and no other line does. The title of the section is what
follows the number signs, without the blanks at its ends, and is empty exactly when that is all
blank. -/
theorem header_lines_open_sections (line : List Char) (clean : '\n' ∉ line) (above below : String) :
    (∃ raw, StandsBetween line above below raw) ∧
    ∀ raw, StandsBetween line above below raw →
      ((∃ entry, OpensSection above below raw entry) ↔ ∃ text, FollowsMarks line text) ∧
      (∀ entry text, OpensSection above below raw entry → FollowsMarks line text →
        IsTrimmed isBlank text entry.title.toList ∧
          (entry.title = "" ↔ ∀ c ∈ text, isBlank c = true)) ∧
      ((¬ ∃ text, FollowsMarks line text) →
        (parseSections raw).map (·.title.toList) =
          (parseSections above ++ parseSections below).map (·.title.toList)) := by
  refine ⟨exists_standsBetween clean above below, fun raw stands => ⟨?_, ?_, ?_⟩⟩
  · constructor
    · rintro ⟨entry, opens⟩
      obtain ⟨text, follows, _⟩ := (isHeader_iff _ _).mp (isHeader_of_opensSection stands opens)
      exact ⟨text, follows⟩
    · rintro ⟨text, follows⟩
      have heads := (isHeader_iff _ _).mpr ⟨text, follows, isTrimmed_trim text⟩
      exact ⟨_, parseSections_of_header stands heads⟩
  · intro entry text opens follows
    have heads := (isHeader_iff _ _).mpr ⟨text, follows, isTrimmed_trim text⟩
    have same : trim text = entry.title.toList := by
      have read := (headerTitle?_eq_some_iff _ _).mpr heads
      rw [(headerTitle?_eq_some_iff _ _).mpr (isHeader_of_opensSection stands opens)] at read
      exact (Option.some.inj read).symm
    have isTrimmed := isTrimmed_trim text
    rw [same] at isTrimmed
    refine ⟨isTrimmed, ?_⟩
    rw [← isTrimmed.eq_nil_iff, String.toList_eq_nil_iff]
  · intro noHeader
    have read : headerTitle? line = none := by
      rw [Option.eq_none_iff_forall_ne_some]
      intro title read
      obtain ⟨text, follows, _⟩ :=
        (isHeader_iff _ _).mp ((headerTitle?_eq_some_iff _ _).mp read)
      exact noHeader ⟨text, follows⟩
    rw [parseSections_titles stands, read, List.map_append]
    rfl

/-- Two blanks after a number sign make a header without a title. -/
theorem blank_header_opens_untitled_section : '\n' ∉ "# \u3000".toList ∧
    ∃ raw entry, StandsBetween "# \u3000".toList "intro\n" "text\n## Next" raw ∧
      OpensSection "intro\n" "text\n## Next" raw entry ∧ entry.title = "" := by
  have clean : '\n' ∉ "# \u3000".toList := by decide
  obtain ⟨⟨raw, stands⟩, rule⟩ :=
    header_lines_open_sections "# \u3000".toList clean "intro\n" "text\n## Next"
  have follows : FollowsMarks "# \u3000".toList " \u3000".toList :=
    ⟨['#'], ' ', ['\u3000'], .inl rfl, by decide, by decide, rfl, rfl⟩
  obtain ⟨grammar, titles, _⟩ := rule raw stands
  obtain ⟨entry, opens⟩ := grammar.mpr ⟨_, follows⟩
  have blank : " \u3000".toList.all isBlank = true := by decide
  exact ⟨clean, raw, entry, stands, opens,
    (titles entry _ opens follows).2.mpr (List.all_eq_true.mp blank)⟩

end DashboardTools.Docs
