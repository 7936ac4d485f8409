import DashboardTools.Text.Ranges

/-!
# Blank characters, trimming and words

A character is blank when Unicode gives it the property White_Space. Trimming removes a
class of characters from the ends of a text; a text falls into the fields between the
characters of a class, and its words are the fields between blanks that are not empty.
-/

namespace DashboardTools.Text

/-- The characters with the property White_Space, the line and paragraph separators among them. -/
def blankRanges : Ranges :=
  [(0x09, 0x0D), (0x20, 0x20), (0x85, 0x85), (0xA0, 0xA0), (0x1680, 0x1680), (0x2000, 0x200A),
   (0x2028, 0x2029), (0x202F, 0x202F), (0x205F, 0x205F), (0x3000, 0x3000)]

/-- Whether a character is blank, by its property in Unicode and not only in ASCII. -/
def isBlank (c : Char) : Bool := blankRanges.covers c

/-- The text without the longest run of the class at its end. -/
def dropEnd (inClass : Char → Bool) (text : List Char) : List Char :=
  (text.reverse.dropWhile inClass).reverse

/-- The text without the longest runs of the class at both ends. -/
def trimBy (inClass : Char → Bool) (text : List Char) : List Char :=
  dropEnd inClass (text.dropWhile inClass)

/-- The text without blanks at its end. Those at its start stay. -/
def trimEnd (text : List Char) : List Char := dropEnd isBlank text

/-- The text without blanks at either end. Those within it stay. -/
def trim (text : List Char) : List Char := trimBy isBlank text

/-- The pieces between the characters of a class, one more than there are such characters;
pieces may be empty. -/
def fields (inClass : Char → Bool) : List Char → List (List Char)
  | [] => [[]]
  | c :: rest =>
    if inClass c then [] :: fields inClass rest
    else
      match fields inClass rest with
      | [] => [[c]]
      | piece :: pieces => (c :: piece) :: pieces

/-- The text before a character and, if it occurs, what follows it. -/
def splitAt? (mark : Char) (text : List Char) : List Char × Option (List Char) :=
  match text.dropWhile (· != mark) with
  | [] => (text, none)
  | _ :: rest => (text.takeWhile (· != mark), some rest)

/-- The pieces between blanks that are not empty, in their order. -/
def words (text : List Char) : List (List Char) :=
  (fields isBlank text).filter fun piece => !piece.isEmpty

/-- A text without a blank is one field, the text itself. -/
theorem fields_of_none {inClass : Char → Bool} {text : List Char}
    (none : ∀ c ∈ text, inClass c = false) : fields inClass text = [text] := by
  induction text with
  | nil => rfl
  | cons c rest inductionHypothesis =>
    have head := none c (by simp)
    have tail := inductionHypothesis fun d member => none d (by simp [member])
    simp [fields, head, tail]

/-- Dropping at the end keeps a beginning of the text. -/
theorem dropEnd_prefix (inClass : Char → Bool) (text : List Char) :
    dropEnd inClass text <+: text := by
  obtain ⟨cut, whole⟩ := List.dropWhile_suffix (l := text.reverse) inClass
  refine ⟨cut.reverse, ?_⟩
  rw [dropEnd, ← List.reverse_append, whole, List.reverse_reverse]

end DashboardTools.Text
