import DashboardTools.Text.Blank

/-!
# What trimming leaves

Trimming a text leaves the one part of it that has characters of the class around it and none at its
own ends. It is empty exactly when all characters are of the class, and it keeps every part of the
text that begins and ends with other characters.
-/

namespace DashboardTools.Text

/-- A text is `trimmed` with characters of the class around it, and `trimmed` neither begins nor
ends with one. -/
structure IsTrimmed (inClass : Char → Bool) (text trimmed : List Char) : Prop where
  around : ∃ left right, text = left ++ trimmed ++ right ∧
    (∀ c ∈ left, inClass c = true) ∧ ∀ c ∈ right, inClass c = true
  first : ∀ c ∈ trimmed.head?, inClass c = false
  last : ∀ c ∈ trimmed.getLast?, inClass c = false

variable {inClass : Char → Bool}

/-- The run at the beginning ends where another character stands. -/
theorem dropWhile_run {run rest : List Char} (inRun : ∀ c ∈ run, inClass c = true)
    (stops : ∀ c ∈ rest.head?, inClass c = false) : (run ++ rest).dropWhile inClass = rest := by
  rw [List.dropWhile_append_of_pos inRun]
  cases rest with
  | nil => rfl
  | cons c rest => rw [List.dropWhile_cons_of_neg (by simp [stops c rfl])]

/-- The run at the end begins after another character, so dropping it leaves all that stands
before. -/
theorem dropEnd_run {rest run : List Char} (inRun : ∀ c ∈ run, inClass c = true)
    (stops : ∀ c ∈ rest.getLast?, inClass c = false) : dropEnd inClass (rest ++ run) = rest := by
  have backwards : (run.reverse ++ rest.reverse).dropWhile inClass = rest.reverse :=
    dropWhile_run (by simpa using inRun) (by simpa using stops)
  rw [dropEnd, List.reverse_append, backwards, List.reverse_reverse]

/-- A text begins with a run of the class, perhaps an empty one, and what is left begins with no
character of it. -/
theorem exists_run (inClass : Char → Bool) (text : List Char) : ∃ run,
    text = run ++ text.dropWhile inClass ∧ (∀ c ∈ run, inClass c = true) ∧
      ∀ c ∈ (text.dropWhile inClass).head?, inClass c = false := by
  refine ⟨text.takeWhile inClass, List.takeWhile_append_dropWhile.symm,
    List.all_eq_true.mp List.all_takeWhile, fun c first => ?_⟩
  have stops := List.head?_dropWhile_not inClass text
  rw [Option.mem_def.mp first] at stops
  exact stops

/-- There is one way to trim a text, and trimming finds it. -/
theorem isTrimmed_iff (text trimmed : List Char) :
    IsTrimmed inClass text trimmed ↔ trimBy inClass text = trimmed := by
  constructor
  · rintro ⟨⟨left, right, rfl, inLeft, inRight⟩, first, last⟩
    cases trimmed with
    | nil =>
      have all : (left ++ right).dropWhile inClass = [] := by
        have whole := @dropWhile_run inClass (left ++ right) []
          (fun c member => (List.mem_append.mp member).elim (inLeft c) (inRight c)) (by simp)
        rwa [List.append_nil] at whole
      rw [List.append_nil, trimBy, all]
      rfl
    | cons c rest =>
      rw [trimBy, List.append_assoc, dropWhile_run inLeft (by simpa using first c rfl),
        dropEnd_run inRight last]
  · rintro rfl
    obtain ⟨left, whole, inLeft, first⟩ := exists_run inClass text
    obtain ⟨run, shorter, inRun, last⟩ := exists_run inClass (text.dropWhile inClass).reverse
    have kept : text.dropWhile inClass = trimBy inClass text ++ run.reverse := by
      rw [trimBy, dropEnd, ← List.reverse_append, ← shorter, List.reverse_reverse]
    refine ⟨⟨left, run.reverse, ?_, inLeft, by simpa using inRun⟩, ?_, ?_⟩
    · rw [List.append_assoc, ← kept, ← whole]
    · intro c isFirst
      refine first c ?_
      rw [kept, Option.mem_def, List.head?_append, Option.mem_def.mp isFirst]
      rfl
    · rw [trimBy, dropEnd]
      simpa using last

/-- A run that a text begins with ends before any part of it without characters of the class. -/
theorem run_ends_before {before part after run rest : List Char}
    (same : before ++ (part ++ after) = run ++ rest) (filled : part ≠ [])
    (clean : ∀ c ∈ part, inClass c = false) (inRun : ∀ c ∈ run, inClass c = true) :
    ∃ front, before = run ++ front ∧ rest = front ++ (part ++ after) := by
  rcases List.append_eq_append_iff.mp same with ⟨excess, longer, reached⟩ | inside
  · cases excess with
    | nil => exact ⟨[], by simpa using longer.symm, by simpa using reached.symm⟩
    | cons c excess =>
      obtain ⟨d, part, rfl⟩ := List.exists_cons_of_ne_nil filled
      obtain rfl : d = c := (List.cons.inj reached).1
      have overlap := inRun d (by simp [longer])
      rw [clean d List.mem_cons_self] at overlap
      cases overlap
  · exact inside

/-- Trimming leaves the text without the blanks at its ends. -/
theorem isTrimmed_trim (text : List Char) : IsTrimmed isBlank text (trim text) :=
  (isTrimmed_iff _ _).mpr rfl

namespace IsTrimmed

variable {text trimmed : List Char} (isTrimmed : IsTrimmed inClass text trimmed)

include isTrimmed

/-- Nothing is left exactly when all characters are of the class. -/
theorem eq_nil_iff : trimmed = [] ↔ ∀ c ∈ text, inClass c = true := by
  obtain ⟨⟨left, right, rfl, inLeft, inRight⟩, first, _⟩ := isTrimmed
  constructor
  · rintro rfl c member
    rw [List.append_nil, List.mem_append] at member
    exact member.elim (inLeft c) (inRight c)
  · intro all
    cases trimmed with
    | nil => rfl
    | cons c rest =>
      have stays := first c rfl
      rw [all c (by simp)] at stays
      cases stays

/-- A trimmed text is never longer than the text, since it is a part of it. -/
theorem length_le : trimmed.length ≤ text.length := by
  obtain ⟨⟨left, right, rfl, _, _⟩, _, _⟩ := isTrimmed
  simp only [List.length_append]
  omega

/-- A part of the text that has no characters of the class is kept. -/
theorem keeps {before part after : List Char} (whole : text = before ++ part ++ after)
    (filled : part ≠ []) (clean : ∀ c ∈ part, inClass c = false) :
    ∃ left front back right, before = left ++ front ∧ after = back ++ right ∧
      trimmed = front ++ part ++ back := by
  obtain ⟨⟨left, right, parted, inLeft, inRight⟩, _, _⟩ := isTrimmed
  rw [whole, List.append_assoc, List.append_assoc] at parted
  obtain ⟨front, toLeft, middle⟩ := run_ends_before parted filled clean inLeft
  have backwards : after.reverse ++ (part.reverse ++ front.reverse) =
      right.reverse ++ trimmed.reverse := by
    simpa using congrArg List.reverse middle.symm
  obtain ⟨back, toRight, kept⟩ := run_ends_before backwards (by simpa using filled)
    (by simpa using clean) (by simpa using inRight)
  refine ⟨left, front, back.reverse, right, toLeft, ?_, ?_⟩
  · simpa using congrArg List.reverse toRight
  · simpa using congrArg List.reverse kept

end IsTrimmed

end DashboardTools.Text
