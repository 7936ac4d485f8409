import DashboardTools.Text.Blank

/-!
# Pieces between separators

The pieces of a text are what stands between its separators. A separator parts the pieces before it
from those after it, no piece holds one, and a text with a single separator is its pieces again with
that separator between them.
-/

namespace DashboardTools.Text

variable {inClass : Char → Bool}

/-- A text has at least one field, even when the text is empty. -/
theorem fields_ne_nil (text : List Char) : fields inClass text ≠ [] := by
  induction text with
  | nil => simp [fields]
  | cons c rest inductionHypothesis =>
    unfold fields
    split
    · simp
    · cases pieces : fields inClass rest <;> simp

/-- A separator parts the pieces before it from those after it. -/
theorem fields_append {mark : Char} (separates : inClass mark = true) (before after : List Char) :
    fields inClass (before ++ mark :: after) = fields inClass before ++ fields inClass after := by
  induction before with
  | nil => simp [fields, separates]
  | cons c rest inductionHypothesis =>
    rw [List.cons_append, fields, fields, inductionHypothesis]
    split
    · rfl
    · cases pieces : fields inClass rest with
      | nil => exact absurd pieces (fields_ne_nil rest)
      | cons piece more => rfl

/-- No piece holds a separator, since a text is cut at every one of them. -/
theorem not_inClass_of_mem_fields {text piece : List Char} (isPiece : piece ∈ fields inClass text) :
    ∀ c ∈ piece, inClass c = false := by
  induction text generalizing piece with
  | nil =>
    obtain rfl : piece = [] := by simpa [fields] using isPiece
    simp
  | cons d rest inductionHypothesis =>
    unfold fields at isPiece
    split at isPiece
    · rcases List.mem_cons.mp isPiece with rfl | later
      · simp
      · exact inductionHypothesis later
    next other =>
      cases pieces : fields inClass rest with
      | nil => exact absurd pieces (fields_ne_nil rest)
      | cons first more =>
        rw [pieces] at isPiece inductionHypothesis
        rcases List.mem_cons.mp isPiece with rfl | later
        · intro c member
          rcases List.mem_cons.mp member with rfl | inFirst
          · simpa using other
          · exact inductionHypothesis (by simp) c inFirst
        · exact inductionHypothesis (by simp [later])

/-- A text is its pieces with the separator between them. -/
theorem intercalate_fields (mark : Char) (text : List Char) :
    [mark].intercalate (fields (· == mark) text) = text := by
  induction text with
  | nil => rfl
  | cons c rest inductionHypothesis =>
    cases pieces : fields (· == mark) rest with
    | nil => exact absurd pieces (fields_ne_nil rest)
    | cons piece more =>
      rw [pieces] at inductionHypothesis
      by_cases same : c = mark
      · simp [fields, same, pieces, inductionHypothesis, List.intercalate_cons_cons]
      · cases more with
        | nil => simpa [fields, same, pieces] using inductionHypothesis
        | cons next others =>
          rw [List.intercalate_cons_cons] at inductionHypothesis
          simp [fields, same, pieces, List.intercalate_cons_cons, inductionHypothesis]

end DashboardTools.Text
