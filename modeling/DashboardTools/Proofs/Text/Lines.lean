import DashboardTools.Text.Lines

/-!
# What the lines of a text are

A text consists of its lines with their endings. An ending is a line feed, together with the
carriage return directly before it if there is one; only a line that nothing follows may lack its
ending, and then it keeps a carriage return at its end. There is one way to see a text as lines, and
the lines that are read are those.
-/

namespace DashboardTools.Text

/-- A text consists of these lines. Up to the first line feed there is one line, of which a carriage
return at the end belongs to the ending; what has no line feed is a line unless it is empty. -/
inductive ConsistsOf : (text : List Char) → (lines : List (List Char)) → Prop where
  | nothing : ConsistsOf [] []
  | unended (line : List Char) (filled : line ≠ []) (clean : '\n' ∉ line) : ConsistsOf line [line]
  | ended (line rest : List Char) (lines : List (List Char)) (clean : '\n' ∉ line)
    (later : ConsistsOf rest lines) : ConsistsOf (line ++ '\n' :: rest) (dropReturn line :: lines)

/-- Reading on over characters that are no line feed adds them to the line. -/
theorem linesAfter_append {line : List Char} (clean : '\n' ∉ line) (before rest : List Char) :
    linesAfter before (line ++ rest) = linesAfter (line.reverse ++ before) rest := by
  induction line generalizing before with
  | nil => rfl
  | cons c line inductionHypothesis =>
    have different : c ≠ '\n' := fun same => clean (by simp [same])
    have cleanRest : '\n' ∉ line := fun member => clean (List.mem_cons_of_mem _ member)
    rw [List.cons_append, linesAfter, if_neg different, inductionHypothesis cleanRest,
      List.reverse_cons, List.append_assoc, List.singleton_append]

/-- What is read from a place within a line on consists of the line that began before, and of the
lines after it. The induction is on what is still to be read. -/
theorem consistsOf_linesAfter {before : List Char} (clean : '\n' ∉ before) (text : List Char) :
    ConsistsOf (before.reverse ++ text) (linesAfter before text) := by
  induction text generalizing before with
  | nil =>
    unfold linesAfter
    split
    next empty =>
      obtain rfl := List.isEmpty_iff.mp empty
      exact .nothing
    next filled =>
      rw [List.append_nil]
      exact .unended _ (by simpa using filled) (by simpa using clean)
  | cons c rest inductionHypothesis =>
    unfold linesAfter
    split
    next feed =>
      subst feed
      exact .ended _ _ _ (by simpa using clean) (inductionHypothesis List.not_mem_nil)
    next different =>
      have cleanLine : '\n' ∉ c :: before := by simp [clean, Ne.symm different]
      simpa using inductionHypothesis cleanLine

/-- A text consists of its lines and of no others. -/
theorem consistsOf_iff (text : List Char) (read : List (List Char)) :
    ConsistsOf text read ↔ lines text = read := by
  constructor
  · intro consists
    unfold lines
    induction consists with
    | nothing => rfl
    | unended line filled clean =>
      have all := linesAfter_append clean [] []
      rw [List.append_nil, List.append_nil] at all
      rw [all, linesAfter, if_neg (by simpa using filled), List.reverse_reverse]
    | ended line rest lines clean _ inductionHypothesis =>
      rw [linesAfter_append clean, List.append_nil, linesAfter, if_pos rfl, List.reverse_reverse,
        inductionHypothesis]
  · rintro rfl
    exact consistsOf_linesAfter List.not_mem_nil text

end DashboardTools.Text
