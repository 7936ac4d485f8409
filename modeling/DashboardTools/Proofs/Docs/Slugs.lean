import DashboardTools.Docs.Slug
import DashboardTools.Proofs.Text.Casing
import DashboardTools.Proofs.Text.Runs
import DashboardTools.Proofs.Text.Trimming

/-!
# Slugs are runs with hyphens between them

A slug is written in one pass that looks only at what it wrote last, and is trimmed at its ends.
What comes out are the runs of letters and digits of the lowercased title with one hyphen between
any two. A pass that has just written a hyphen, or has not begun, writes the runs and, for what
follows the last of them, at most one hyphen. A slug is a title of its own, and its slug is itself.
-/

namespace DashboardTools.Docs

open DashboardTools.Text

/-- The small letters and the digits of ASCII. Letters of other scripts are none of them. -/
def IsSlugCharacter (c : Char) : Prop := 'a' ≤ c ∧ c ≤ 'z' ∨ '0' ≤ c ∧ c ≤ '9'

/-- Whether a character is kept in a slug can be decided by its code. -/
instance : DecidablePred IsSlugCharacter := fun c =>
  inferInstanceAs (Decidable ('a' ≤ c ∧ c ≤ 'z' ∨ '0' ≤ c ∧ c ≤ '9'))

/-- The characters that stand between the runs of a slug. -/
def slugSeparates (c : Char) : Bool := !decide (IsSlugCharacter c)

/-- The characters that slugs keep are the small letters and digits of ASCII. -/
theorem slugKeeps_iff (c : Char) : slugKeeps c = true ↔ IsSlugCharacter c := by
  have inRange (low high : Char) :
      (decide (c.val ≥ low.val) && decide (c.val ≤ high.val)) = true ↔ low ≤ c ∧ c ≤ high := by
    rw [Bool.and_eq_true, decide_eq_true_eq, decide_eq_true_eq]
    exact Iff.rfl
  rw [slugKeeps, Bool.or_eq_true]
  exact or_congr (inRange 'a' 'z') (inRange '0' '9')

/-- A character does not separate the runs of a slug exactly when it is one that slugs keep. -/
theorem slugSeparates_eq_false_iff (c : Char) : slugSeparates c = false ↔ IsSlugCharacter c := by
  simp [slugSeparates]

/-- What separates is what is not kept, so each character of a title does one or the other. -/
theorem slugSeparates_eq (c : Char) : slugSeparates c = !slugKeeps c := by
  rw [Bool.eq_iff_iff]
  simp [slugSeparates, ← slugKeeps_iff]

/-- One or more runs of small letters and digits with a hyphen between any two. -/
inductive IsHyphenated : List Char → Prop where
  | run (run : List Char) (filled : run ≠ []) (plain : ∀ c ∈ run, IsSlugCharacter c) :
      IsHyphenated run
  | more (run rest : List Char) (filled : run ≠ []) (plain : ∀ c ∈ run, IsSlugCharacter c)
      (others : IsHyphenated rest) : IsHyphenated (run ++ '-' :: rest)

/-- A character that slugs keep is never the hyphen, so hyphens in a slug are always put there. -/
theorem IsSlugCharacter.ne_hyphen {c : Char} (plain : IsSlugCharacter c) : c ≠ '-' := by
  rintro rfl
  exact absurd ((slugKeeps_iff _).mpr plain) (by decide)

namespace IsHyphenated

variable {text : List Char}

/-- A hyphenated text holds only kept characters and hyphens, and hence no slash. -/
theorem plain_or_hyphen (hyphenated : IsHyphenated text) :
    ∀ c ∈ text, IsSlugCharacter c ∨ c = '-' := by
  induction hyphenated with
  | run run filled plain => exact fun c member => .inl (plain c member)
  | more run rest filled plain others inductionHypothesis =>
    intro c member
    rcases List.mem_append.mp member with inRun | later
    · exact .inl (plain c inRun)
    · rcases List.mem_cons.mp later with hyphen | inRest
      · exact .inr hyphen
      · exact inductionHypothesis c inRest

/-- A hyphenated text begins with a kept character, never with a hyphen. -/
theorem head (hyphenated : IsHyphenated text) : ∀ c ∈ text.head?, IsSlugCharacter c := by
  cases hyphenated with
  | run run filled plain => exact fun c first => plain c (List.mem_of_mem_head? first)
  | more run rest filled plain others =>
    obtain ⟨d, run, rfl⟩ := List.exists_cons_of_ne_nil filled
    simpa using plain d List.mem_cons_self

/-- A hyphenated text ends with a kept character, never with a hyphen. -/
theorem last (hyphenated : IsHyphenated text) : ∀ c ∈ text.getLast?, IsSlugCharacter c := by
  induction hyphenated with
  | run run filled plain => exact fun c last => plain c (List.mem_of_mem_getLast? last)
  | more run rest filled plain others inductionHypothesis =>
    intro c isLast
    have restFilled : rest ≠ [] := by
      cases others with
      | run _ filled _ => exact filled
      | more _ _ filled _ _ => simp [filled]
    obtain ⟨d, rest, rfl⟩ := List.exists_cons_of_ne_nil restFilled
    exact inductionHypothesis c (by simpa [List.getLast?_append, List.getLast?_cons] using isLast)

/-- No two hyphens stand beside each other: the one after a run is followed by a run. -/
theorem no_double (hyphenated : IsHyphenated text) : ¬ ['-', '-'] <:+: text := by
  have behind {run rest : List Char} (plain : ∀ c ∈ run, IsSlugCharacter c)
      (double : ['-', '-'] <:+: run ++ rest) : ['-', '-'] <:+: rest := by
    induction run with
    | nil => exact double
    | cons c run inductionHypothesis =>
      rcases List.infix_cons_iff.mp double with begins | later
      · have same : '-' = c := (List.cons_prefix_cons.mp begins).1
        exact absurd same.symm (plain c List.mem_cons_self).ne_hyphen
      · exact inductionHypothesis (fun d member => plain d (List.mem_cons_of_mem _ member)) later
  induction hyphenated with
  | run run filled plain =>
    intro double
    rw [← List.append_nil run] at double
    exact absurd (behind plain double) (by simp)
  | more run rest filled plain others inductionHypothesis =>
    intro double
    rcases List.infix_cons_iff.mp (behind plain double) with begins | later
    · obtain ⟨after, rfl⟩ := (List.cons_prefix_cons.mp begins).2
      exact (others.head '-' rfl).ne_hyphen rfl
    · exact inductionHypothesis later

end IsHyphenated

/-- Runs with hyphens between them have the form of a slug, if there are any. -/
theorem isHyphenated_intercalate {runs : List (List Char)} (exist : runs ≠ [])
    (proper : ∀ run ∈ runs, run ≠ [] ∧ ∀ c ∈ run, slugSeparates c = false) :
    IsHyphenated (['-'].intercalate runs) := by
  simp only [slugSeparates_eq_false_iff] at proper
  induction runs with
  | nil => exact absurd rfl exist
  | cons run runs inductionHypothesis =>
    obtain ⟨filled, plain⟩ := proper run List.mem_cons_self
    cases runs with
    | nil => simpa using IsHyphenated.run run filled plain
    | cons next more =>
      have others := inductionHypothesis (by simp) fun other member =>
        proper other (List.mem_cons_of_mem _ member)
      simpa [List.intercalate_cons_cons] using IsHyphenated.more run _ filled plain others

/-- A run of kept characters passes through unchanged, and what follows is read as standing after a
kept character. -/
theorem hyphenate_run_append {run : List Char} (filled : run ≠ [])
    (plain : ∀ c ∈ run, slugSeparates c = false) (hyphenated : Bool) (rest : List Char) :
    hyphenate hyphenated (run ++ rest) = run ++ hyphenate false rest := by
  induction run generalizing hyphenated with
  | nil => exact absurd rfl filled
  | cons c run inductionHypothesis =>
    have keeps : slugKeeps c = true := by simpa [slugSeparates_eq] using plain c List.mem_cons_self
    rw [List.cons_append, hyphenate, if_pos keeps]
    cases run with
    | nil => rfl
    | cons d run =>
      rw [inductionHypothesis (by simp) fun e member => plain e (List.mem_cons_of_mem _ member)]
      rfl

/-- After a hyphen a gap writes nothing, so a gap is written as one hyphen however long it is. -/
theorem hyphenate_gap_append {gap : List Char} (separates : ∀ c ∈ gap, slugSeparates c = true)
    (rest : List Char) : hyphenate true (gap ++ rest) = hyphenate true rest := by
  induction gap with
  | nil => rfl
  | cons c gap inductionHypothesis =>
    have drops : ¬ slugKeeps c = true := by
      simpa [slugSeparates_eq] using separates c List.mem_cons_self
    rw [List.cons_append, hyphenate, if_neg drops, if_pos rfl]
    exact inductionHypothesis fun d member => separates d (List.mem_cons_of_mem _ member)

/-- After another character a gap writes one hyphen, and then it is as after a hyphen. -/
theorem hyphenate_false_of_separates {c : Char} (separates : slugSeparates c = true)
    (rest : List Char) : hyphenate false (c :: rest) = '-' :: hyphenate true (c :: rest) := by
  have drops : ¬ slugKeeps c = true := by simpa [slugSeparates_eq] using separates
  rw [hyphenate, if_neg drops, if_neg Bool.false_ne_true, hyphenate, if_neg drops, if_pos rfl]

/-- A pass that has just written a hyphen writes the runs, and hyphens at most behind them. -/
theorem hyphenate_of_fallsInto {text : List Char} {runs : List (List Char)}
    (falls : FallsInto slugSeparates text runs) : ∃ behind, (∀ c ∈ behind, c = '-') ∧
      hyphenate true text = ['-'].intercalate runs ++ behind := by
  induction falls with
  | gap gap separates =>
    have nothing := hyphenate_gap_append separates []
    rw [List.append_nil] at nothing
    exact ⟨[], by simp, by rw [nothing]; rfl⟩
  | run gap run rest runs separates filled plain ends others inductionHypothesis =>
    obtain ⟨behind, hyphens, written⟩ := inductionHypothesis
    have step : hyphenate true (gap ++ run ++ rest) = run ++ hyphenate false rest := by
      rw [List.append_assoc, hyphenate_gap_append separates, hyphenate_run_append filled plain]
    cases rest with
    | nil =>
      obtain rfl : [] = runs := others.filledFields_eq
      exact ⟨[], by simp, by rw [step]; simp [hyphenate]⟩
    | cons mark rest =>
      rw [hyphenate_false_of_separates (ends mark rfl), written] at step
      cases runs with
      | nil => exact ⟨'-' :: behind, by simpa using hyphens, by simpa using step⟩
      | cons next more =>
        exact ⟨behind, hyphens, by simpa [List.intercalate_cons_cons] using step⟩

/-- The whole pass has hyphens at most around the runs, and trimming takes these away. -/
theorem slugify_of_fallsInto {title : String} {runs : List (List Char)}
    (falls : FallsInto slugSeparates (lowercase title.toList) runs) :
    (slugify title).toList = ['-'].intercalate runs := by
  obtain ⟨behind, hyphens, written⟩ := hyphenate_of_fallsInto falls
  have ahead : ∃ front, (∀ c ∈ front, c = '-') ∧ hyphenate false (lowercase title.toList) =
      front ++ hyphenate true (lowercase title.toList) := by
    cases lowercase title.toList with
    | nil => exact ⟨[], by simp, rfl⟩
    | cons c rest =>
      cases separates : slugSeparates c with
      | true => exact ⟨['-'], by simp, hyphenate_false_of_separates separates rest⟩
      | false =>
        have keeps : slugKeeps c = true := by simpa [slugSeparates_eq] using separates
        exact ⟨[], by simp, by rw [hyphenate, if_pos keeps, hyphenate, if_pos keeps]; rfl⟩
  obtain ⟨front, frontHyphens, whole⟩ := ahead
  rw [written, ← List.append_assoc] at whole
  have isTrimmed : IsTrimmed (· == '-') (hyphenate false (lowercase title.toList))
      (['-'].intercalate runs) := by
    by_cases none : runs = []
    · subst none
      exact ⟨⟨front, behind, whole, by simpa using frontHyphens, by simpa using hyphens⟩,
        by simp, by simp⟩
    · have form := isHyphenated_intercalate none falls.unbroken_of_mem
      exact ⟨⟨front, behind, whole, by simpa using frontHyphens, by simpa using hyphens⟩,
        fun c first => by simpa using (form.head c first).ne_hyphen,
        fun c last => by simpa using (form.last c last).ne_hyphen⟩
  rw [slugify, String.toList_ofList]
  exact (isTrimmed_iff _ _).mp isTrimmed

/-- The characters of a slug are in lower case, the hyphen among them. -/
theorem isSmall_of_plain_or_hyphen {c : Char} (form : IsSlugCharacter c ∨ c = '-') : IsSmall c := by
  have table : ∀ n < 0x80, slugKeeps (Char.ofNat n) = true ∨ Char.ofNat n = '-' →
      Char.ofNat n ≠ 'Σ' ∧ lowercaseChar (Char.ofNat n) = [Char.ofNat n] := by decide +kernel
  have low : c.toNat < 0x80 := by
    rcases form with (⟨_, small⟩ | ⟨_, digit⟩) | rfl
    · exact Nat.lt_of_le_of_lt small (by decide)
    · exact Nat.lt_of_le_of_lt digit (by decide)
    · decide
  have point := table c.toNat low
  rw [Char.ofNat_toNat, slugKeeps_iff] at point
  exact point form

/-- A slug is empty or hyphenated: runs of kept characters with single hyphens between them. -/
theorem slugify_form (title : String) :
    slugify title = "" ∨ IsHyphenated (slugify title).toList := by
  obtain ⟨runs, falls⟩ := exists_fallsInto slugSeparates (lowercase title.toList)
  have written := slugify_of_fallsInto falls
  by_cases none : runs = []
  · left
    rw [← String.toList_eq_nil_iff, written, none]
    rfl
  · right
    rw [written]
    exact isHyphenated_intercalate none falls.unbroken_of_mem

/-- Slugs are in lower case, so making a slug of a slug lowers nothing. -/
theorem isLowercase_slugify (title : String) : IsLowercase (slugify title).toList := by
  intro c member
  rcases slugify_form title with empty | hyphenated
  · simp [empty] at member
  · exact isSmall_of_plain_or_hyphen (hyphenated.plain_or_hyphen c member)

/-- A slug falls into the runs of its title, and so it is its own slug. -/
theorem slugify_slugify (title : String) : slugify (slugify title) = slugify title := by
  obtain ⟨runs, falls⟩ := exists_fallsInto slugSeparates (lowercase title.toList)
  have written := slugify_of_fallsInto falls
  have again : FallsInto slugSeparates (lowercase (slugify title).toList) runs := by
    rw [lowercase_of_isLowercase (isLowercase_slugify title), written]
    exact fallsInto_intercalate (by decide) falls.unbroken_of_mem
  rw [← String.toList_inj, slugify_of_fallsInto again, written]

/-- A text is the slug of a title, told by the runs of the title and without the function that makes
it. -/
structure IsSlugOf (title slug : String) : Prop where
  /-- It is the runs of small letters and digits of the lowercased title with hyphens between
  them. -/
  runs : ∃ runs, FallsInto slugSeparates (lowercase title.toList) runs ∧
    slug.toList = "-".toList.intercalate runs
  form : slug = "" ∨ IsHyphenated slug.toList
  /-- All small letters and digits of the lowercased title are in it, in their order. -/
  kept : slug.toList.filter IsSlugCharacter = (lowercase title.toList).filter IsSlugCharacter
  noSlash : '/' ∉ slug.toList
  noDouble : ¬ "--".toList <:+: slug.toList
  ends : slug.toList.head? ≠ some '-' ∧ slug.toList.getLast? ≠ some '-'
  /-- It is its own slug. -/
  stays : slugify slug = slug

/-- What is made of a title is its slug: the runs, and nothing else, with single hyphens between
them. -/
theorem slugs_are_hyphenated_runs (title : String) : IsSlugOf title (slugify title) := by
  obtain ⟨runs, falls⟩ := exists_fallsInto slugSeparates (lowercase title.toList)
  have written := slugify_of_fallsInto falls
  have form := slugify_form title
  refine ⟨⟨runs, falls, written⟩, form, ?_, ?_, ?_, ?_, slugify_slugify title⟩
  · have again : FallsInto slugSeparates (slugify title).toList runs := by
      rw [written]
      exact fallsInto_intercalate (by decide) falls.unbroken_of_mem
    have both := again.filter_eq_flatten.trans falls.filter_eq_flatten.symm
    simpa [slugSeparates] using both
  · intro slash
    rcases form with empty | hyphenated
    · simp [empty] at slash
    · rcases hyphenated.plain_or_hyphen _ slash with plain | hyphen
      · exact absurd plain (by decide)
      · exact absurd hyphen (by decide)
  · rcases form with empty | hyphenated
    · simp [empty]
    · exact hyphenated.no_double
  · rcases form with empty | hyphenated
    · simp [empty]
    · exact ⟨fun first => (hyphenated.head '-' first).ne_hyphen rfl,
        fun last => (hyphenated.last '-' last).ne_hyphen rfl⟩

example : slugify "  iOS SDK: Quick--start (\u212A) " = "ios-sdk-quick-start-k" := by
  decide +kernel

end DashboardTools.Docs
