/-!
# Lines of a text

A line ends before a line feed; one carriage return directly before that line feed belongs to
the ending. What follows the last line feed is a line of its own unless it is empty, and keeps
a carriage return at its end.
-/

namespace DashboardTools.Text

/-- The line without the carriage return that its ending may have. -/
def dropReturn (line : List Char) : List Char :=
  if line.getLast? = some '\r' then line.dropLast else line

/-- Reads on in a line of which `line` stands to the left, nearest character first. -/
def linesAfter (line : List Char) : List Char → List (List Char)
  | [] => if line.isEmpty then [] else [line.reverse]
  | c :: rest =>
    if c = '\n' then dropReturn line.reverse :: linesAfter [] rest
    else linesAfter (c :: line) rest

/-- The lines of a text, without their endings. A line ends with a line feed, or with a carriage
return in front of one. -/
def lines (text : List Char) : List (List Char) := linesAfter [] text

/-- No line holds a line feed, since every line feed ends a line. -/
theorem newline_not_mem_of_mem_linesAfter {before text line : List Char}
    (clean : '\n' ∉ before) (member : line ∈ linesAfter before text) : '\n' ∉ line := by
  induction text generalizing before with
  | nil =>
    unfold linesAfter at member
    split at member <;> simp_all
  | cons c rest inductionHypothesis =>
    unfold linesAfter at member
    split at member
    · rcases List.mem_cons.mp member with rfl | later
      · unfold dropReturn
        split
        · exact fun inside => clean (by simpa using List.dropLast_subset _ inside)
        · simpa using clean
      · exact inductionHypothesis (by simp) later
    next different =>
      exact inductionHypothesis (by simp [clean, Ne.symm different]) member

end DashboardTools.Text
