import DashboardTools.Proofs.Text.Fields

/-!
# What the words of a text are

A piece of a text stands between two separators, or between one and an end of the text. The words
are the pieces between blanks that have characters, so a word is a run of characters that are not
blank and that no further one stands beside.
-/

namespace DashboardTools.Text

/-- A piece stands in a text where nothing but a separator or an end of the text is beside it. -/
def StandsApart (inClass : Char → Bool) (text piece : List Char) : Prop :=
  ∃ before after, text = before ++ piece ++ after ∧
    (∀ c ∈ before.getLast?, inClass c = true) ∧ ∀ c ∈ after.head?, inClass c = true

variable {inClass : Char → Bool}

/-- A text without a separator is one piece. Any other is its first piece, a separator, and what the
other pieces are read of. -/
theorem fields_cases (inClass : Char → Bool) (text : List Char) : fields inClass text = [text] ∨
    ∃ piece mark rest, text = piece ++ mark :: rest ∧ inClass mark = true ∧
      fields inClass text = piece :: fields inClass rest := by
  cases first : text.find? inClass with
  | none =>
    rw [List.find?_eq_none] at first
    exact .inl (fields_of_none fun c member => by simpa using first c member)
  | some mark =>
    obtain ⟨isMark, piece, rest, split, before⟩ := List.find?_eq_some_iff_append.mp first
    have clean : fields inClass piece = [piece] :=
      fields_of_none fun c member => by simpa using before c member
    refine .inr ⟨piece, mark, rest, split, isMark, ?_⟩
    rw [split, fields_append isMark, clean, List.singleton_append]

/-- Every piece of a text stands apart in it. The recursion is on the text after the first piece. -/
theorem standsApart_of_mem_fields (text : List Char) {piece : List Char}
    (isPiece : piece ∈ fields inClass text) : StandsApart inClass text piece := by
  rcases fields_cases inClass text with one | ⟨first, mark, rest, split, isMark, all⟩
  · rw [one, List.mem_singleton] at isPiece
    exact ⟨[], [], by simp [isPiece], by simp, by simp⟩
  · rw [all] at isPiece
    rcases List.mem_cons.mp isPiece with rfl | later
    · exact ⟨[], mark :: rest, by simp [split], by simp, by simpa using isMark⟩
    · have shorter : rest.length < text.length := by
        rw [split]
        simp only [List.length_append, List.length_cons]
        omega
      obtain ⟨before, after, whole, left, right⟩ := standsApart_of_mem_fields rest later
      refine ⟨first ++ mark :: before, after, by simp [split, whole], ?_, right⟩
      intro c isLast
      cases nearest : before.getLast? with
      | none =>
        obtain rfl := List.getLast?_eq_none_iff.mp nearest
        obtain rfl : mark = c := by simpa using isLast
        exact isMark
      | some d =>
        obtain rfl : d = c := by
          simpa [List.getLast?_append, List.getLast?_cons, nearest] using isLast
        exact left d nearest
termination_by text.length

/-- What stands apart and holds no separator is a piece. -/
theorem mem_fields_of_standsApart {text piece : List Char}
    (clean : ∀ c ∈ piece, inClass c = false) (apart : StandsApart inClass text piece) :
    piece ∈ fields inClass text := by
  obtain ⟨before, after, whole, left, right⟩ := apart
  have begins : piece ∈ fields inClass (piece ++ after) := by
    cases after with
    | nil => simp [fields_of_none clean]
    | cons mark rest =>
      rw [fields_append (right mark rfl), fields_of_none clean]
      exact List.mem_cons_self
  cases nearest : before.getLast? with
  | none =>
    obtain rfl := List.getLast?_eq_none_iff.mp nearest
    rwa [whole]
  | some mark =>
    obtain ⟨front, rfl⟩ := List.getLast?_eq_some_iff.mp nearest
    rw [whole, List.append_assoc, List.append_assoc, List.singleton_append,
      fields_append (left mark nearest)]
    exact List.mem_append_right _ begins

/-- A word of a text: characters without a blank that stand apart between blanks. -/
structure IsWordOf (text word : List Char) : Prop where
  filled : word ≠ []
  unbroken : ∀ c ∈ word, isBlank c = false
  apart : StandsApart isBlank text word

/-- The words of a text are the pieces that stand between blanks and are not empty. -/
theorem mem_words_iff (text word : List Char) : word ∈ words text ↔ IsWordOf text word := by
  unfold words
  rw [List.mem_filter]
  constructor
  · rintro ⟨isPiece, filled⟩
    exact ⟨by simpa using filled, not_inClass_of_mem_fields isPiece,
      standsApart_of_mem_fields text isPiece⟩
  · rintro ⟨filled, unbroken, apart⟩
    exact ⟨mem_fields_of_standsApart unbroken apart, by simpa using filled⟩

end DashboardTools.Text
