import DashboardTools.Proofs.Docs.Arrangement
import DashboardTools.Proofs.Docs.Excerpts
import DashboardTools.Proofs.Text.LetterByLetter

/-!
# Excerpts show the words that are found

A section is a hit for a word of the query that its lowercase form has, while its excerpt is made
around the first place where the word stands in the letters of its content, each lowercased alone.
Where these two texts have the word alike, the excerpt shows it. No bound is needed on the place of
the match, only one on the length of the word: of what follows the beginning of a match, 150
characters are shown.
-/

namespace DashboardTools.Docs

open DashboardTools.Text

/-- A word as it stands in a query's lowercase form. -/
structure IsQueryWord (word : List Char) : Prop where
  filled : word ≠ []
  unbroken : ∀ c ∈ word, isBlank c = false
  small : IsLowercase word

/-- Each word of a query is one that a query can have: it is in lower case, is not empty and has no
blank in it. -/
theorem AreWordsOf.isQueryWord {query : String} {words : List (List Char)}
    (areWords : AreWordsOf query words) {word : List Char} (member : word ∈ words) :
    IsQueryWord word := by
  obtain ⟨filled, unbroken⟩ := areWords.unbroken_of_mem word member
  refine ⟨filled, unbroken, fun c inWord => ?_⟩
  have inRuns : c ∈ words.flatten := List.mem_flatten.mpr ⟨word, member, inWord⟩
  rw [← areWords.filter_eq_flatten] at inRuns
  exact isLowercase_lowercaseAfter [] query.toList c (List.mem_filter.mp inRuns).1

/-- If the content of a section has the word, the excerpt of a hit has it. -/
def ShowsWord (word : List Char) (entry : Section) (hit : Hit) : Prop :=
  word <:+: lowercase entry.content.toList → word <:+: lowercase hit.excerpt.toList

/-- An excerpt that shows a match has the letters of the matched word. -/
theorem infix_of_showsMatch {content word excerpt : List Char} {position : Nat}
    (stands : word <+: (content.map lowercaseFirst).drop position)
    (shows : ShowsMatch content position word.length excerpt) :
    word <:+: excerpt.map lowercaseFirst := by
  obtain ⟨_, before, shown, after, _, _, whole, _, first, last, _, rfl⟩ := shows
  have behind : (content.map lowercaseFirst).drop position =
      (shown.map lowercaseFirst).drop (position - before.length) ++ after.map lowercaseFirst := by
    rw [whole, List.map_append, List.map_append, List.append_assoc, List.drop_append,
      List.drop_of_length_le (by simpa using first), List.nil_append, List.length_map,
      List.drop_append_of_le_length (by rw [List.length_map]; omega)]
  rw [behind] at stands
  have inShown : word <+: (shown.map lowercaseFirst).drop (position - before.length) := by
    refine List.prefix_of_prefix_length_le stands (List.prefix_append _ _) ?_
    rw [List.length_drop, List.length_map]
    omega
  have whole := inShown.isInfix.trans (List.drop_suffix _ _).isInfix
  rw [List.map_append, List.map_append]
  exact whole.trans (List.infix_append _ _ _)

/-- The excerpt has no other letters than the content and the dots around it. -/
theorem mem_of_showsMatch {content excerpt : List Char} {position length : Nat}
    (shows : ShowsMatch content position length excerpt) {c : Char} (member : c ∈ excerpt)
    (other : c ≠ '.') : c ∈ content := by
  obtain ⟨_, before, shown, after, _, _, whole, _, _, _, _, rfl⟩ := shows
  have notDots (more : Prop) [Decidable more] : c ∉ dots more := by
    unfold dots
    split <;> simp [other]
  rw [whole]
  simp only [List.mem_append] at member ⊢
  rcases member with (left | inShown) | right
  · exact absurd left (notDots _)
  · exact .inl (.inr inShown)
  · exact absurd right (notDots _)

/-- The excerpt of a content that reads alike has the word if the content has it. -/
theorem infix_lowercase_excerpt {content word : List Char} (isWord : IsQueryWord word)
    (short : word.length ≤ 150) (alike : ReadsAlike word content)
    (occurs : word <:+: lowercase content) : word <:+: lowercase (excerpt content word) := by
  have same : lowercase word = word := lowercase_of_isLowercase isWord.small
  have inLetters := (infix_lowercase_iff alike isWord.filled).mp occurs
  have shown := @exists_showsMatch content word isWord.unbroken
  rw [same] at shown
  obtain ⟨position, first, shows⟩ := shown isWord.filled short inLetters
  have alikeExcerpt : ReadsAlike word (excerpt content word) :=
    alike.of_subset (fun member => mem_of_showsMatch shows member (by decide))
      (fun member => mem_of_showsMatch shows member (by decide))
  rw [infix_lowercase_iff alikeExcerpt isWord.filled]
  exact infix_of_showsMatch first.1 shows

/-- A search shows its first word in every hit whose content has it and reads alike. -/
theorem search_showsWord {query : String} {word : List Char} {words : List (List Char)}
    (areWords : AreWordsOf query (word :: words)) (short : word.length ≤ 150)
    (sections : List Section) (category? : Option Category) (limit : Nat) :
    List.Forall₂ (fun placed hit =>
        ReadsAlike word placed.1.content.toList → ShowsWord word placed.1 hit)
      ((ranked sections query category?).take limit) (search sections query category? limit) := by
  have isWord := areWords.isQueryWord List.mem_cons_self
  have firstWord : (queryTerms query).headD [] = word := by
    rw [(areWordsOf_iff _ _).mp areWords, List.headD_cons]
  rw [search_eq, firstWord, List.forall₂_map_right_iff, List.forall₂_same]
  intro placed _ alike occurs
  rw [Section.hit, String.toList_ofList]
  exact infix_lowercase_excerpt isWord short alike occurs

end DashboardTools.Docs
