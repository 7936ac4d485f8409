import DashboardTools.Proofs.Docs.ShownWords

/-!
# Found words that are not shown

A section is a hit for a word of its lowercase form that its letters, each lowercased alone, need
not have; and they may have it elsewhere first. Either needs a capital that the two texts differ at,
and a word with a place for it. For every such word there is a content that has this capital and not
the other, which is found alone by any query that begins with the word, and whose excerpt does not
show it. So nothing weaker than that the content reads alike will do for all contents.
-/

namespace DashboardTools.Docs

open DashboardTools.Text

variable {query : String} {word : List Char} {words : List (List Char)}

/-- Searched alone, a section whose content has the first word of the query is a hit. -/
theorem search_alone (areWords : AreWordsOf query (word :: words)) {entry : Section}
    (occurs : word <:+: lowercase entry.content.toList) (limit : Nat) :
    search [entry] query none (limit + 1) = [entry.hit (word :: words) word] := by
  have inSearched : word <:+: entry.searched :=
    occurs.trans (lowercase_after_space entry.title.toList entry.content.toList).isInfix
  have positive : 0 < score entry (word :: words) :=
    (score_pos_iff _ _).mpr ⟨word, List.mem_cons_self, inSearched⟩
  unfold search
  rw [(areWordsOf_iff _ _).mp areWords]
  simp [Section.hit?, positive, Section.hit]

/-- A section with nothing but a content, under the empty title and in the area of guides. -/
def Section.bare (content : List Char) : Section := ⟨"/guides/", "", .ofList content, .guides⟩

/-- Some section that has none of a capital is found by a query, and its hit does not show the
word. -/
def HasUnshown (query : String) (word : List Char) (capital : Char) : Prop :=
  ∃ entry hit, capital ∉ entry.content.toList ∧ search [entry] query none 1 = [hit] ∧
    ¬ ShowsWord word entry hit

/-- A word that occurs in a lowercased content, but not in the lowercased excerpt of it, is found
without being shown. The section with just that content is the one that is found. -/
theorem hasUnshown_of_excerpt (areWords : AreWordsOf query (word :: words)) {content : List Char}
    (occurs : word <:+: lowercase content)
    (hidden : ¬ word <:+: lowercase (excerpt content word)) {capital : Char}
    (without : capital ∉ content) : HasUnshown query word capital := by
  have same : (Section.bare content).content.toList = content := String.toList_ofList
  refine ⟨Section.bare content, _, by rwa [same], search_alone areWords (by rwa [same]) 0,
    fun shows => hidden ?_⟩
  have shown := shows (by rwa [same])
  rwa [Section.hit, String.toList_ofList, same] at shown

/-- A text with fewer of some letter than a word does not have the word. -/
theorem not_infix_of_count {text : List Char} (letter : Char)
    (fewer : text.count letter < word.count letter) : ¬ word <:+: text :=
  fun stands => Nat.not_le_of_lt fewer (stands.sublist.count_le letter)

/-- The dots around an excerpt are in lower case, so lowercasing an excerpt leaves them as they
are. -/
theorem isLowercase_ellipsis : IsLowercase ellipsis := by
  intro c member
  obtain rfl : c = '.' := by simpa [ellipsis] using member
  exact ⟨by decide, by decide⟩

/-- As many letters as an excerpt shows without a match. -/
def filler : List Char := List.replicate 200 'x'

/-- The filler is made of one letter, so each of its characters is that letter. -/
theorem eq_of_mem_filler {c : Char} (member : c ∈ filler) : c = 'x' := List.eq_of_mem_replicate member

/-- The filler is in lower case, so lowercasing does not move what stands behind it. -/
theorem isLowercase_filler : IsLowercase filler := by
  intro c member
  rw [eq_of_mem_filler member]
  exact ⟨by decide, by decide⟩

/-- A match that is missed behind so many letters is not shown. -/
theorem excerpt_behind_filler {rest : List Char} (small : IsLowercase word)
    (absent : ¬ word <:+: (filler ++ rest).map lowercaseFirst) :
    excerpt (filler ++ rest) word = filler ++ ellipsis := by
  have beginning : (filler ++ rest).take 200 = filler := List.take_left' List.length_replicate
  have trimmed : trim filler = filler := by decide +kernel
  have threeDots : "...".toList = ellipsis := rfl
  rw [excerpt_of_absent (by rwa [lowercase_of_isLowercase small]), beginning, trimmed, threeDots]

/-- A word is missed behind the filler if lowercasing each letter alone loses one of its letters,
and it is then not shown. -/
theorem hasUnshown_behind_filler (areWords : AreWordsOf query (word :: words)) {rest : List Char}
    (occurs : word <:+: lowercaseAfter filler rest) {letter : Char} (notX : letter ≠ 'x')
    (notDot : letter ≠ '.') (fewer : (rest.map lowercaseFirst).count letter < word.count letter)
    {capital : Char} (notCapital : capital ≠ 'x') (without : capital ∉ rest) :
    HasUnshown query word capital := by
  have isWord := areWords.isQueryWord List.mem_cons_self
  have noneInFiller : filler.count letter = 0 := by
    rw [List.count_eq_zero]
    exact fun member => notX (eq_of_mem_filler member)
  have smallShown : IsLowercase (filler ++ ellipsis) := by
    intro c member
    exact (List.mem_append.mp member).elim (isLowercase_filler c) (isLowercase_ellipsis c)
  have absent : ¬ word <:+: (filler ++ rest).map lowercaseFirst := by
    apply not_infix_of_count letter
    rwa [List.map_append, map_lowercaseFirst_of_isLowercase isLowercase_filler, List.count_append,
      noneInFiller, Nat.zero_add]
  have found : word <:+: lowercase (filler ++ rest) := by
    have turned : filler.reverse = filler := List.reverse_replicate
    have behind := lowercaseAfter_append_suffix [] filler rest
    rw [turned, List.append_nil] at behind
    exact occurs.trans behind.isInfix
  apply hasUnshown_of_excerpt areWords found
  -- What is shown has none of the letters that are lost, so the word cannot be in it by chance.
  · rw [excerpt_behind_filler isWord.small absent, lowercase_of_isLowercase smallShown]
    apply not_infix_of_count letter
    have noneInDots : ellipsis.count letter = 0 := by simp [ellipsis, notDot.symm]
    rw [List.count_append, noneInFiller, noneInDots]
    omega
  · intro member
    rcases List.mem_append.mp member with inFiller | inRest
    · exact notCapital (eq_of_mem_filler inFiller)
    · exact without inRest

/-- A content in which the word stands far behind something else. -/
def farBehind (first word : List Char) : List Char := first ++ (List.replicate 150 ' ' ++ word)

/-- Where something else is taken for a match it is shown alone. -/
theorem excerpt_farBehind {first : List Char} {position : Nat} (isWord : IsQueryWord word)
    (unbroken : ∀ c ∈ first, isBlank c = false)
    (here : StandsFirst word ((farBehind first word).map lowercaseFirst) position)
    (near : position ≤ 50) (inside : position ≤ first.length)
    (fits : first.length ≤ position + 150) :
    excerpt (farBehind first word) word = first ++ ellipsis := by
  have same : lowercase word = word := lowercase_of_isLowercase isWord.small
  have wordFilled := List.length_pos_iff.mpr isWord.filled
  -- The window ends within the blanks, and these are trimmed.
  have sliced : slice? (farBehind first word) (position - 50)
      (min (position + 150) (farBehind first word).length) =
        some (first ++ List.replicate (position + 150 - first.length) ' ') := by
    rw [slice?_eq_some_iff]
    refine ⟨[], List.replicate (first.length - position) ' ' ++ word, ?_, ?_, ?_⟩
    · have blanks : 150 = (position + 150 - first.length) + (first.length - position) := by omega
      rw [List.nil_append, List.append_assoc, ← List.append_assoc (List.replicate _ _),
        List.replicate_append_replicate, ← blanks]
      rfl
    · simp only [List.length_nil]
      omega
    · simp only [farBehind, List.length_append, List.length_replicate, List.length_nil]
      omega
  have shown : trim (first ++ List.replicate (position + 150 - first.length) ' ') = first := by
    refine (isTrimmed_iff _ _).mp ⟨⟨[], _, rfl, by simp, fun c member => ?_⟩, ?_, ?_⟩
    · rw [List.eq_of_mem_replicate member]
      decide
    · exact fun c isFirst => unbroken c (List.mem_of_mem_head? isFirst)
    · exact fun c isLast => unbroken c (List.mem_of_mem_getLast? isLast)
  have more : position + 150 < (farBehind first word).length := by
    simp only [farBehind, List.length_append, List.length_replicate]
    omega
  rw [excerpt_of_standsFirst (by rw [same]; exact isWord.filled) (by rwa [same]) sliced, shown]
  simp only [dots, if_neg (Nat.not_lt_of_le near), if_pos more]
  rfl

/-- A word that stands far behind something taken for a match is found and not shown. -/
theorem hasUnshown_farBehind (areWords : AreWordsOf query (word :: words)) {first : List Char}
    {position : Nat} (unbroken : ∀ c ∈ first, isBlank c = false)
    (here : StandsFirst word ((farBehind first word).map lowercaseFirst) position)
    (near : position ≤ 50) (inside : position ≤ first.length)
    (fits : first.length ≤ position + 150)
    (hidden : ¬ word <:+: lowercase (first ++ ellipsis)) {capital : Char} (notSpace : capital ≠ ' ')
    (withoutFirst : capital ∉ first) (withoutWord : capital ∉ word) :
    HasUnshown query word capital := by
  have isWord := areWords.isQueryWord List.mem_cons_self
  have found : word <:+: lowercase (farBehind first word) := by
    have behind := lowercaseAfter_append_suffix [] (first ++ List.replicate 150 ' ') word
    rw [lowercaseAfter_of_isLowercase isWord.small, List.append_assoc] at behind
    exact behind.isInfix
  apply hasUnshown_of_excerpt areWords found
  · rwa [excerpt_farBehind isWord unbroken here near inside fits]
  · intro member
    rcases List.mem_append.mp member with inFirst | later
    · exact withoutFirst inFirst
    · rcases List.mem_append.mp later with inBlanks | inWord
      · exact notSpace (List.eq_of_mem_replicate inBlanks)
      · exact withoutWord inWord

/-- What is not only the last letter of a word has a next one. -/
theorem exists_of_mem_dropLast {c : Char} (member : c ∈ word.dropLast) :
    ∃ before next after, word = before ++ c :: next :: after := by
  obtain ⟨before, between, cut⟩ := List.append_of_mem member
  have filled : word ≠ [] := by
    rintro rfl
    simp at member
  have whole := List.dropLast_append_getLast filled
  rw [cut, List.append_assoc, List.cons_append] at whole
  cases between with
  | nil => exact ⟨before, _, [], whole.symm⟩
  | cons next between => exact ⟨before, next, _, whole.symm⟩

/-- A word of a query is in lower case, so no capital stands in it. -/
theorem IsQueryWord.not_mem_capital (isWord : IsQueryWord word) {capital : Char}
    (isCapital : ¬ IsSmall capital) : capital ∉ word :=
  fun member => isCapital (isWord.small _ member)

/-- What stands before and after a character of a query's word is in lower case too. -/
theorem IsQueryWord.parts {before after : List Char} {c : Char}
    (isWord : IsQueryWord (before ++ c :: after)) : IsLowercase before ∧ IsLowercase after :=
  ⟨fun d member => isWord.small d (List.mem_append_left _ member),
    fun d member => isWord.small d (by simp [member])⟩

/-- A dot of the word that comes of a dotted I is lost. -/
theorem hasUnshown_of_dot (areWords : AreWordsOf query (word :: words)) {before after : List Char}
    (smallBefore : IsLowercase before) (smallAfter : IsLowercase after)
    (stands : word <:+: before ++ 'i' :: '\u0307' :: after)
    (fewer : (before ++ after).count '\u0307' < word.count '\u0307') :
    HasUnshown query word 'Σ' := by
  have isI : lowercaseFirst '\u0130' = 'i' := by decide
  have occurs : word <:+: lowercaseAfter filler (before ++ '\u0130' :: after) := by
    rwa [lowercaseAfter_dotted smallBefore smallAfter]
  apply @hasUnshown_behind_filler _ _ _ areWords _ occurs '\u0307' (by decide) (by decide)
  · rw [map_lowercaseFirst_around smallBefore smallAfter, isI]
    simpa [List.count_append, List.count_cons] using fewer
  · decide
  · exact not_mem_around smallBefore smallAfter not_isSmall_sigma (by decide)

/-- The word with a dotted I for each i. Lowercased as a whole it has a dot behind each i. -/
def dotteds (word : List Char) : List Char := word.map fun c => if c = 'i' then '\u0130' else c

/-- Lowering each dotted I by itself drops its dot, so the content with dotted letters matches the
word again. -/
theorem map_lowercaseFirst_dotteds (small : IsLowercase word) :
    (dotteds word).map lowercaseFirst = word := by
  rw [dotteds, List.map_map]
  refine (List.map_congr_left fun c member => ?_).trans (List.map_id' word)
  rw [Function.comp_apply]
  split
  next isI =>
    rw [isI]
    decide
  next => exact (small c member).lowercaseFirst_eq

/-- A character of the dotted word is the dotted I, or it is a character of the word other than
i. -/
theorem eq_or_mem_of_mem_dotteds {c : Char} (member : c ∈ dotteds word) :
    c = '\u0130' ∨ c ∈ word ∧ c ≠ 'i' := by
  obtain ⟨d, inWord, rfl⟩ := List.mem_map.mp member
  split
  next => exact .inl rfl
  next notI => exact .inr ⟨inWord, notI⟩

/-- With a dotted I for each i a word is taken for a match, although only dots follow its i's. -/
theorem hasUnshown_of_next (areWords : AreWordsOf query (word :: words)) (short : word.length ≤ 150)
    {next : Char} (goesOn : ['i', next] <:+: word) (other : next ≠ '\u0307') :
    HasUnshown query word 'Σ' := by
  have isWord := areWords.isQueryWord List.mem_cons_self
  have here : StandsFirst word ((farBehind (dotteds word) word).map lowercaseFirst) 0 := by
    refine (standsFirst_of_start ?_ 0).mpr rfl
    rw [farBehind, List.map_append, map_lowercaseFirst_dotteds isWord.small]
    exact List.prefix_append _ _
  have sameLength : (dotteds word).length = word.length := List.length_map _
  apply hasUnshown_farBehind areWords _ here (Nat.zero_le _) (Nat.zero_le _) (by omega) _ (by decide) _
    (isWord.not_mem_capital not_isSmall_sigma)
  · intro c member
    rcases eq_or_mem_of_mem_dotteds member with rfl | ⟨inWord, _⟩
    · decide
    · exact isWord.unbroken c inWord
  · intro found
    refine not_infix_lowercaseAfter_of_dotted (fun c member => ?_) other [] (goesOn.trans found)
    rcases List.mem_append.mp member with inFirst | isDot
    · exact (eq_or_mem_of_mem_dotteds inFirst).imp_right fun kept => ⟨isWord.small c kept.1, kept.2⟩
    · obtain rfl : c = '.' := by simpa [ellipsis] using isDot
      exact .inr ⟨isLowercase_ellipsis _ isDot, by decide⟩
  · intro member
    rcases eq_or_mem_of_mem_dotteds member with impossible | ⟨inWord, _⟩
    · exact absurd impossible (by decide)
    · exact isWord.not_mem_capital not_isSmall_sigma inWord

/-- A word that would break up an i with its dot is not always shown. -/
theorem hasUnshown_of_splitsDottedI (areWords : AreWordsOf query (word :: words))
    (short : word.length ≤ 150) (splits : SplitsDottedI word) : HasUnshown query word 'Σ' := by
  have isWord := areWords.isQueryWord List.mem_cons_self
  rcases splits with beginsWithDot | goesOn
  · obtain ⟨after, rfl⟩ := List.head?_eq_some_iff.mp beginsWithDot
    refine @hasUnshown_of_dot _ _ _ areWords [] after (fun c member => absurd member List.not_mem_nil)
      (fun c member => isWord.small c (List.mem_cons_of_mem _ member)) ?_ ?_
    · exact (List.suffix_cons 'i' _).isInfix
    · simp
  · obtain ⟨before, next, after, rfl⟩ := exists_of_mem_dropLast goesOn
    by_cases isDot : next = '\u0307'
    · subst isDot
      obtain ⟨smallBefore, smallOthers⟩ := isWord.parts
      have smallAfter : IsLowercase after :=
        fun c member => smallOthers c (List.mem_cons_of_mem _ member)
      refine hasUnshown_of_dot areWords smallBefore smallAfter List.infix_rfl ?_
      simp [List.count_append]
    · exact hasUnshown_of_next areWords short ⟨before, after, by simp⟩ isDot

/-- A final sigma is missed where the letter alone has the other form. -/
theorem hasUnshown_of_final {before after : List Char}
    (areWords : AreWordsOf query ((before ++ 'ς' :: after) :: words))
    (mayBeFinal : MayBeFinal before after) :
    HasUnshown query (before ++ 'ς' :: after) '\u0130' := by
  have isWord := areWords.isQueryWord List.mem_cons_self
  obtain ⟨smallBefore, smallAfter⟩ := isWord.parts
  have isSigma : lowercaseFirst 'Σ' = 'σ' := by decide +kernel
  have final := @lowercaseAfter_final before after filler [] mayBeFinal smallBefore smallAfter
    (fun c member => absurd member List.not_mem_nil) (by decide +kernel) (by decide)
  rw [List.append_nil] at final
  have occurs : before ++ 'ς' :: after <:+: lowercaseAfter filler (before ++ 'Σ' :: after) := by
    simp only [final, List.infix_rfl]
  apply @hasUnshown_behind_filler _ _ _ areWords _ occurs 'ς' (by decide) (by decide)
  · rw [map_lowercaseFirst_around smallBefore smallAfter, isSigma]
    simp [List.count_append]
  · decide
  · exact not_mem_around smallBefore smallAfter not_isSmall_dotted (by decide)

/-- A word that stands at its own beginning and one letter further on has one letter only. -/
theorem eq_of_prefix_cons {word rest : List Char} {c : Char} (begins : word <+: c :: (word ++ rest)) :
    ∀ d ∈ word, d = c := by
  induction word generalizing c with
  | nil => exact fun d member => absurd member List.not_mem_nil
  | cons first others inductionHypothesis =>
    obtain ⟨rfl, goesOn⟩ := List.cons_prefix_cons.mp begins
    intro d member
    rcases List.mem_cons.mp member with same | later
    · exact same
    · exact inductionHypothesis goesOn d later

/-- Led by a letter and with dots after it, a capital sigma that may be final is. -/
theorem lowercase_led_sigma {before after : List Char} (mayBeFinal : MayBeFinal before after)
    (smallBefore : IsLowercase before) (smallAfter : IsLowercase after) :
    lowercase ('x' :: (before ++ 'Σ' :: after) ++ ellipsis) =
      'x' :: (before ++ 'ς' :: (after ++ ellipsis)) := by
  have final := @lowercaseAfter_final before after ['x'] ellipsis mayBeFinal smallBefore smallAfter
    isLowercase_ellipsis (by decide +kernel) (by decide +kernel)
  have form : lowercaseChar 'x' = ['x'] := by decide
  rw [List.cons_append, List.append_assoc, List.cons_append, lowercase, lowercaseAfter,
    if_neg (by decide), form, final]
  rfl

/-- Where a sigma would be final, the letter alone is taken for the sigma of the word. -/
theorem hasUnshown_of_medial {before after : List Char}
    (areWords : AreWordsOf query ((before ++ 'σ' :: after) :: words))
    (short : (before ++ 'σ' :: after).length ≤ 150) (mayBeFinal : MayBeFinal before after) :
    HasUnshown query (before ++ 'σ' :: after) '\u0130' := by
  have isWord := areWords.isQueryWord List.mem_cons_self
  obtain ⟨smallBefore, smallAfter⟩ := isWord.parts
  have isSigma : lowercaseFirst 'Σ' = 'σ' := by decide +kernel
  have isX : lowercaseFirst 'x' = 'x' := by decide
  have letters : ('x' :: (before ++ 'Σ' :: after)).map lowercaseFirst =
      'x' :: (before ++ 'σ' :: after) := by
    rw [List.map_cons, map_lowercaseFirst_around smallBefore smallAfter, isSigma, isX]
  have others : ∀ c ∈ 'x' :: (before ++ 'Σ' :: after),
      c = 'x' ∨ c = 'Σ' ∨ c ∈ before ++ 'σ' :: after := by
    intro c member
    simp only [List.mem_cons, List.mem_append] at member ⊢
    tauto
  -- Without the x the sigma would not be final if nothing cased stands before it in the word.
  have fits : ('x' :: (before ++ 'Σ' :: after)).length ≤ 1 + 150 := by
    simp only [List.length_cons, List.length_append] at short ⊢
    omega
  apply @hasUnshown_farBehind _ _ _ areWords ('x' :: (before ++ 'Σ' :: after)) 1 _ _ (by decide)
    (by simp) fits _ _ (by decide) _ (isWord.not_mem_capital not_isSmall_dotted)
  · intro c member
    rcases others c member with rfl | rfl | inWord
    · decide
    · decide
    · exact isWord.unbroken c inWord
  · rw [farBehind, List.map_append, letters, List.cons_append]
    refine (standsFirst_cons ?_ 1).mpr
      ⟨0, (standsFirst_of_start (List.prefix_append _ _) 0).mpr rfl, rfl⟩
    intro begins
    have impossible : 'σ' = 'x' := eq_of_prefix_cons begins 'σ' (by simp)
    exact absurd impossible (by decide)
  · rw [lowercase_led_sigma mayBeFinal smallBefore smallAfter]
    apply not_infix_of_count 'σ'
    have noneInDots : ellipsis.count 'σ' = 0 := by decide
    simp [List.count_append, noneInDots]
  · intro member
    rcases others _ member with impossible | impossible | inWord
    · exact absurd impossible (by decide)
    · exact absurd impossible (by decide)
    · exact isWord.not_mem_capital not_isSmall_dotted inWord

/-- A word with a sigma where it may be final is not always shown. -/
theorem hasUnshown_of_hasFinalPlace (areWords : AreWordsOf query (word :: words))
    (short : word.length ≤ 150) (hasPlace : HasFinalPlace word) :
    HasUnshown query word '\u0130' := by
  obtain ⟨before, sigma, after, rfl, rfl | rfl, mayBeFinal⟩ := hasPlace
  · exact hasUnshown_of_medial areWords short mayBeFinal
  · exact hasUnshown_of_final areWords mayBeFinal

/-- The first word of a query is shown by every hit whose content has it, if that content reads
alike, and the two capitals are the whole exception: where the word has a place for the one, there
is a content without the other that has the word, and whose hit does not show it. -/
theorem first_word_is_shown (query : String) (word : List Char) (words : List (List Char))
    (areWords : AreWordsOf query (word :: words)) (short : word.length ≤ 150) :
    (∀ sections category? limit, ∃ chosen,
      AreBest sections query category? limit chosen (search sections query category? limit) ∧
      List.Forall₂ (fun placed hit =>
          ReadsAlike word placed.1.content.toList → ShowsWord word placed.1 hit)
        chosen (search sections query category? limit)) ∧
    (SplitsDottedI word → HasUnshown query word 'Σ') ∧
    (HasFinalPlace word → HasUnshown query word '\u0130') := by
  refine ⟨fun sections category? limit => ⟨_, areBest_search sections query category? limit, ?_⟩,
    hasUnshown_of_splitsDottedI areWords short, hasUnshown_of_hasFinalPlace areWords short⟩
  exact search_showsWord areWords short sections category? limit

/-- A word that ends in a sigma, in capitals, meets all premises and is not shown in some section
without a dotted I. -/
theorem capitals_need_not_be_shown : AreWordsOf "ΟΔΟΣ" ["οδος".toList] ∧ "οδος".toList.length ≤ 150 ∧
    (∀ sections category? limit, ∃ chosen,
      AreBest sections "ΟΔΟΣ" category? limit chosen (search sections "ΟΔΟΣ" category? limit) ∧
      List.Forall₂ (fun placed hit =>
          ReadsAlike "οδος".toList placed.1.content.toList → ShowsWord "οδος".toList placed.1 hit)
        chosen (search sections "ΟΔΟΣ" category? limit)) ∧
    HasUnshown "ΟΔΟΣ" "οδος".toList '\u0130' := by
  have areWords : AreWordsOf "ΟΔΟΣ" ["οδος".toList] := (areWordsOf_iff _ _).mpr (by decide +kernel)
  have short : "οδος".toList.length ≤ 150 := by decide
  have hasPlace : HasFinalPlace "οδος".toList :=
    ⟨"οδο".toList, 'ς', [], rfl, .inr rfl, .inr (by decide +kernel), rfl⟩
  obtain ⟨shown, _, unshown⟩ := first_word_is_shown "ΟΔΟΣ" "οδος".toList [] areWords short
  exact ⟨areWords, short, shown, unshown hasPlace⟩

/-- A text with one section, which has a word in capitals behind the filler. -/
def roadText : List Char := "# Guide\n".toList ++ (filler ++ " ΟΔΟΣ\n".toList)

/-- That section, made of its title and of a content in which the word stands far behind. -/
def roadSection : Section := .ofHeader "Guide".toList (filler ++ " ΟΔΟΣ\n".toList)

/-- The text about the road falls into the one section that it spells out, with nothing before its
header. -/
theorem splitSections_roadText : splitSections (lines roadText) = ([], [roadSection]) := by
  have twoLines : lines roadText = ["# Guide".toList, filler ++ " ΟΔΟΣ".toList] := by decide +kernel
  have isHeader : headerTitle? "# Guide".toList = some "Guide".toList := by decide +kernel
  have isContent : headerTitle? (filler ++ " ΟΔΟΣ".toList) = none := by decide +kernel
  have ended : " ΟΔΟΣ".toList ++ ['\n'] = " ΟΔΟΣ\n".toList := by decide
  rw [twoLines]
  simp only [splitSections, isHeader, isContent, List.append_assoc, ended, roadSection]

/-- Parsing a text made of characters splits the lines of those characters. -/
theorem parseSections_ofList (text : List Char) :
    parseSections (.ofList text) = (splitSections (lines text)).2 := by
  rw [parseSections, String.toList_ofList]

/-- Searched for as it stands there, the word is found and not shown. -/
theorem road_is_found_unshown : AreWordsOf "ΟΔΟΣ" ["οδος".toList] ∧ "οδος".toList.length ≤ 150 ∧
    parseSections (.ofList roadText) = [roadSection] ∧
    ∃ hit, search [roadSection] "ΟΔΟΣ" none 5 = [hit] ∧
      "οδος".toList <:+: lowercase roadSection.content.toList ∧
      hit.excerpt.toList = filler ++ "...".toList ∧
      ¬ "οδος".toList <:+: lowercase hit.excerpt.toList := by
  have areWords : AreWordsOf "ΟΔΟΣ" ["οδος".toList] := (areWordsOf_iff _ _).mpr (by decide +kernel)
  have parsed : parseSections (.ofList roadText) = [roadSection] := by
    rw [parseSections_ofList, splitSections_roadText]
  have same : roadSection.content.toList = filler ++ " ΟΔΟΣ\n".toList := String.toList_ofList
  have occurs : "οδος".toList <:+: lowercase roadSection.content.toList := by
    rw [same]
    decide +kernel
  have shown : (roadSection.hit ["οδος".toList] "οδος".toList).excerpt.toList =
      filler ++ "...".toList := by
    rw [Section.hit, String.toList_ofList, same]
    decide +kernel
  refine ⟨areWords, by decide, parsed, _, search_alone areWords occurs 4, occurs, shown, ?_⟩
  rw [shown]
  decide +kernel

end DashboardTools.Docs
