import DashboardTools.Docs.Search
import DashboardTools.Proofs.Text.Lowercase
import DashboardTools.Proofs.Text.Occurrence
import DashboardTools.Proofs.Text.Trimming

/-!
# Excerpts show their match

The excerpt of a content is made around the first place where the term stands in it, letter case
aside. The window around that place lies within the content. Trimming the window leaves the match
whole, because a term without blanks is matched by characters that are not blank, and dots tell on
which sides of the window there is more.
-/

namespace DashboardTools.Docs

open DashboardTools.Text

/-- Three dots, if there is something that they stand for. -/
def dots (more : Prop) [Decidable more] : List Char := if more then "...".toList else []

/-- An excerpt shows a match of some length at a position of a content. The window around the match
is a slice of the content, and what is shown is the window without the blanks at its ends: a piece
of the content that holds the whole match. -/
def ShowsMatch (content : List Char) (position length : Nat) (excerpt : List Char) : Prop :=
  ∃ window before shown after,
    slice? content (position - 50) (min (position + 150) content.length) = some window ∧
    IsTrimmed isBlank window shown ∧
    content = before ++ shown ++ after ∧
    position - 50 ≤ before.length ∧ before.length ≤ position ∧
    position + length ≤ before.length + shown.length ∧
    before.length + shown.length ≤ min (position + 150) content.length ∧
    excerpt = dots (50 < position) ++ shown ++ dots (position + 150 < content.length)

/-- What matches a needle without blanks is a part of the content without blanks. -/
theorem exists_match {content needle : List Char} {position : Nat}
    (clean : ∀ c ∈ needle, isBlank c = false) (filled : needle ≠ [])
    (stands : needle <+: (content.map lowercaseFirst).drop position) :
    ∃ before matched after, content = before ++ matched ++ after ∧ before.length = position ∧
        matched.length = needle.length ∧ ∀ c ∈ matched, isBlank c = false := by
  have inside : position ≤ content.length := by
    have fits := stands.length_le
    have begins := List.length_pos_iff.mpr filled
    rw [List.length_drop, List.length_map] at fits
    omega
  obtain ⟨others, whole⟩ := stands
  rw [← List.map_drop] at whole
  obtain ⟨matched, after, parted, rfl, _⟩ := List.append_eq_map_iff.mp whole
  refine ⟨content.take position, matched, after, ?_, ?_, ?_, ?_⟩
  · rw [List.append_assoc, ← parted, List.take_append_drop]
  · rw [List.length_take, Nat.min_eq_left inside]
  · rw [List.length_map]
  · intro c member
    exact not_isBlank_of_lowercaseFirst (clean _ (List.mem_map_of_mem member))

/-- The window around a match lies within the content and has the match in it. -/
theorem slice?_around {content before matched after : List Char}
    (whole : content = before ++ matched ++ after) (short : matched.length ≤ 150) :
    slice? content (before.length - 50) (min (before.length + 150) content.length) =
      some (before.drop (before.length - 50) ++ matched ++ after.take (150 - matched.length)) := by
  rw [slice?_eq_some_iff]
  refine ⟨before.take (before.length - 50), after.drop (150 - matched.length), ?_, ?_, ?_⟩
  · rw [whole]
    simp only [List.append_assoc, List.take_append_drop]
    rw [← List.append_assoc (before.take _), List.take_append_drop]
  · rw [List.length_take]
    omega
  · simp only [whole, List.length_append, List.length_take, List.length_drop]
    omega

/-- What is left of the window holds the match: trimming takes blanks only, and the match begins and
ends with none. -/
theorem showsMatch_of_match {content before matched after window : List Char}
    (whole : content = before ++ matched ++ after) (short : matched.length ≤ 150)
    (filled : matched ≠ []) (clean : ∀ c ∈ matched, isBlank c = false)
    (sliced : slice? content (before.length - 50) (min (before.length + 150) content.length) =
      some window) :
    ShowsMatch content before.length matched.length
      (dots (50 < before.length) ++ trim window ++ dots (before.length + 150 < content.length)) := by
  have isTrimmed := isTrimmed_trim window
  have shape := Option.some.inj (sliced.symm.trans (slice?_around whole short))
  obtain ⟨left, front, back, right, toLeft, toRight, kept⟩ := isTrimmed.keeps shape filled clean
  have leftLength := congrArg List.length toLeft
  have rightLength := congrArg List.length toRight
  have shownLength := congrArg List.length kept
  have wholeLength := congrArg List.length whole
  simp only [List.length_append, List.length_drop,
    List.length_take] at leftLength rightLength shownLength wholeLength
  refine ⟨window, before.take (before.length - 50) ++ left, trim window,
    right ++ after.drop (150 - matched.length), sliced, isTrimmed, ?_, ?_, ?_, ?_, ?_, rfl⟩
  · have parted : content = (before.take (before.length - 50) ++ before.drop (before.length - 50)) ++
        (matched ++ (after.take (150 - matched.length) ++ after.drop (150 - matched.length))) := by
      rw [List.take_append_drop, List.take_append_drop, ← List.append_assoc, whole]
    rw [parted, toLeft, toRight, kept]
    simp only [List.append_assoc]
  all_goals
    simp only [List.length_append, List.length_take]
    omega

/-- The dots that stand for left-out text are at most three characters. -/
theorem length_dots_le (more : Prop) [Decidable more] : (dots more).length ≤ 3 := by
  unfold dots
  split <;> decide

/-- At most two hundred characters are shown, with dots on both sides. -/
theorem ShowsMatch.length_le {content excerpt : List Char} {position length : Nat}
    (shows : ShowsMatch content position length excerpt) : excerpt.length ≤ 206 := by
  obtain ⟨_, before, shown, _, _, _, _, first, _, _, last, rfl⟩ := shows
  have left := length_dots_le (50 < position)
  have right := length_dots_le (position + 150 < content.length)
  simp only [List.length_append]
  omega

/-- The excerpt around a match is made of the window around it. -/
theorem excerpt_of_standsFirst {content term : List Char} {position : Nat}
    (filled : lowercase term ≠ [])
    (first : StandsFirst (lowercase term) (content.map lowercaseFirst) position)
    {window : List Char}
    (sliced : slice? content (position - 50) (min (position + 150) content.length) = some window) :
    excerpt content term =
      dots (50 < position) ++ trim window ++ dots (position + 150 < content.length) := by
  have found := (firstOccurrence?_eq_some_iff _ _).mpr first
  have goesOn : (lowercase term).isEmpty = false := by simpa using filled
  have cut : min (position + 150) content.length < content.length ↔
      position + 150 < content.length := by omega
  have starts : 0 < position - 50 ↔ 50 < position := by omega
  unfold excerpt
  simp only [goesOn, Bool.false_eq_true, if_false, found, excerptBefore, excerptAfter,
    (slice?_eq_some sliced).2, cut, starts]
  rfl

/-- The excerpt of a content in which the term does not stand is made of its beginning. -/
theorem excerpt_of_absent {content term : List Char}
    (absent : ¬ lowercase term <:+: content.map lowercaseFirst) :
    excerpt content term = trim (content.take 200) ++ "...".toList := by
  have nowhere : firstOccurrence? (lowercase term) (content.map lowercaseFirst) = none := by
    rw [← Option.isNone_iff_eq_none, ← Option.not_isSome, firstOccurrence?_isSome,
      Bool.not_eq_true', Bool.eq_false_iff, ne_eq, occursIn_iff]
    exact absent
  unfold excerpt
  simp only [nowhere, ite_self]
  rfl

/-- Where the term stands in the content, the excerpt shows the first place at which it does. -/
theorem exists_showsMatch {content term : List Char} (clean : ∀ c ∈ term, isBlank c = false)
    (filled : lowercase term ≠ []) (short : (lowercase term).length ≤ 150)
    (occurs : lowercase term <:+: content.map lowercaseFirst) :
    ∃ position, StandsFirst (lowercase term) (content.map lowercaseFirst) position ∧
      ShowsMatch content position (lowercase term).length (excerpt content term) := by
  obtain ⟨position, first⟩ := (exists_standsFirst_iff _).mpr occurs
  obtain ⟨before, matched, after, whole, rfl, sameLength, notBlank⟩ :=
    exists_match (not_isBlank_of_mem_lowercase clean) filled first.1
  rw [← sameLength] at short ⊢
  have matchedFilled : matched ≠ [] := by
    rw [← List.length_pos_iff, sameLength]
    exact List.length_pos_iff.mpr filled
  have sliced := slice?_around whole short
  rw [excerpt_of_standsFirst filled first sliced]
  exact ⟨_, first, showsMatch_of_match whole short matchedFilled notBlank sliced⟩

/-- The excerpt for a term without blanks, whose lowercase form has no more characters than are
shown from a match on. Where that form stands in the content, letter case aside, the excerpt shows
its first match: the window around the match is within the content, the match is kept whole, and
dots stand exactly on the sides on which there is more. Otherwise it shows the beginning of the
content. -/
theorem excerpts_show_their_match (content term : List Char) (clean : ∀ c ∈ term, isBlank c = false)
    (filled : 1 ≤ (lowercase term).length) (short : (lowercase term).length ≤ 150) :
    (lowercase term <:+: content.map lowercaseFirst →
      ∃ position, StandsFirst (lowercase term) (content.map lowercaseFirst) position ∧
        ShowsMatch content position (lowercase term).length (excerpt content term)) ∧
    (¬ lowercase term <:+: content.map lowercaseFirst →
      ∃ shown, IsTrimmed isBlank (content.take 200) shown ∧
        excerpt content term = shown ++ "...".toList) ∧
    (excerpt content term).length ≤ 206 := by
  have nonempty : lowercase term ≠ [] := List.length_pos_iff.mp filled
  refine ⟨exists_showsMatch clean nonempty short, fun absent => ?_, ?_⟩
  · exact ⟨_, isTrimmed_trim _, excerpt_of_absent absent⟩
  · by_cases occurs : lowercase term <:+: content.map lowercaseFirst
    · obtain ⟨_, _, shows⟩ := exists_showsMatch clean nonempty short occurs
      exact shows.length_le
    · have shorter := (isTrimmed_trim (content.take 200)).length_le
      have taken := List.length_take_le 200 content
      rw [excerpt_of_absent occurs, List.length_append, show "...".toList.length = 3 from rfl]
      omega

example : excerpt "  The API keys ".toList "KEY".toList = "The API keys".toList ∧
    excerpt "The API keys".toList "token".toList = "The API keys...".toList := by
  decide +kernel

/-- A content that is longer than what is shown before a match, and ends in a blank. -/
def longContent : List Char := List.replicate 60 'x' ++ " your key ".toList

/-- A match near the end of a long content meets every premise: its word has no blank, and the
excerpt shows it within the stated bounds. -/
theorem match_near_the_end_is_shown : (∀ c ∈ "KEY".toList, isBlank c = false) ∧
    1 ≤ (lowercase "KEY".toList).length ∧ (lowercase "KEY".toList).length ≤ 150 ∧
    ∃ position, StandsFirst (lowercase "KEY".toList) (longContent.map lowercaseFirst) position ∧
      ShowsMatch longContent position (lowercase "KEY".toList).length
        (excerpt longContent "KEY".toList) := by
  have clean : ∀ c ∈ "KEY".toList, isBlank c = false := by
    have none : ("KEY".toList.all fun c => !isBlank c) = true := by decide
    simpa using none
  have filled : 1 ≤ (lowercase "KEY".toList).length := by decide +kernel
  have short : (lowercase "KEY".toList).length ≤ 150 := by decide +kernel
  have occurs : lowercase "KEY".toList <:+: longContent.map lowercaseFirst := by decide +kernel
  exact ⟨clean, filled, short,
    (excerpts_show_their_match longContent "KEY".toList clean filled short).1 occurs⟩

end DashboardTools.Docs
