import DashboardTools.Proofs.Text.Casing

/-!
# Lowercasing a text and its letters

Two texts are made of one: its lowercase form, and the letters that the lowercase forms of its
letters begin with. They differ at two capitals only. The dotted I becomes an i and a dot above, of
which only the i is kept; and a sigma that ends a word becomes the final one. A word is found in
both texts or in neither unless the text has such a capital and the word has a place for it: one
where the word would break up an i with its dot, or a sigma that may end a word. Words with such a
place are told by themselves, without a text.
-/

namespace DashboardTools.Text

/-- A word that would break up an i with its dot: it begins with the dot, or goes on after an i. -/
def SplitsDottedI (word : List Char) : Prop := word.head? = some '\u0307' ∨ 'i' ∈ word.dropLast

/-- Whether a word would split a dotted i can be decided by looking through its letters. -/
instance : DecidablePred SplitsDottedI := fun word =>
  inferInstanceAs (Decidable (word.head? = some '\u0307' ∨ 'i' ∈ word.dropLast))

/-- Between these two parts of a word a sigma may be final: no cased letter follows, and the nearest
character before it that case does not pass over is one, or may be one before the word. -/
def MayBeFinal (before after : List Char) : Prop :=
  (before.all caseIgnorableRanges.covers = true ∨ meetsCased before.reverse = true) ∧
    meetsCased after = false

/-- A word that has a sigma, final or not, where it may be final. -/
def HasFinalPlace (word : List Char) : Prop :=
  ∃ before sigma after, word = before ++ sigma :: after ∧ (sigma = 'σ' ∨ sigma = 'ς') ∧
    MayBeFinal before after

/-- The text has none of the capitals that the word has a place for. -/
structure ReadsAlike (word text : List Char) : Prop where
  dotted : SplitsDottedI word → '\u0130' ∉ text
  sigma : HasFinalPlace word → 'Σ' ∉ text

variable {word : List Char}

/-- A part of a text reads alike with a word if the text does, since it has no capital that the text
lacks. -/
theorem ReadsAlike.of_subset {text part : List Char} (alike : ReadsAlike word text)
    (dotted : '\u0130' ∈ part → '\u0130' ∈ text) (sigma : 'Σ' ∈ part → 'Σ' ∈ text) :
    ReadsAlike word part where
  dotted splits := fun member => alike.dotted splits (dotted member)
  sigma hasPlace := fun member => alike.sigma hasPlace (sigma member)

/-- What reads alike with a word still does without its first character. -/
theorem ReadsAlike.tail {c : Char} {rest : List Char} (alike : ReadsAlike word (c :: rest)) :
    ReadsAlike word rest :=
  alike.of_subset (List.mem_cons_of_mem c) (List.mem_cons_of_mem c)

/-- A sigma at a place of the word, with the letters of the word's beginning before it, is not final
if what is still to come of the word meets no cased letter that the text does not meet. -/
theorem medial_of_readsAlike {passed before rest others : List Char} {sigma : Char}
    (alike : ReadsAlike word ('Σ' :: rest))
    (split : word = passed.map lowercaseFirst ++ sigma :: others)
    (isSigma : sigma = 'σ' ∨ sigma = 'ς')
    (met : meetsCased others = true → meetsCased rest = true) :
    lowercaseSigma (passed.reverse ++ before) rest = 'σ' := by
  rcases lowercaseSigma_cases (passed.reverse ++ before) rest with ⟨_, cased, uncased⟩ | ⟨medial, _⟩
  · exfalso
    have ahead : (passed.map lowercaseFirst).all caseIgnorableRanges.covers = true ∨
        meetsCased (passed.map lowercaseFirst).reverse = true := by
      rw [← List.map_reverse, meetsCased_map_lowercaseFirst]
      rw [meetsCased_append, List.all_reverse] at cased
      split at cased
      next passes =>
        left
        rw [List.all_map, List.all_eq_true]
        intro c member
        rw [Function.comp_apply, ignorable_lowercaseFirst]
        exact List.all_eq_true.mp passes c member
      next => exact .inr cased
    have behind : meetsCased others = false := by
      rw [Bool.eq_false_iff]
      intro meets
      rw [met meets] at uncased
      cases uncased
    exact alike.sigma ⟨_, sigma, others, split, isSigma, ahead, behind⟩ List.mem_cons_self
  · exact medial

/-- A dotted I can be met only at the word's last letter. -/
theorem nil_of_readsAlike {rest done others : List Char}
    (alike : ReadsAlike word ('\u0130' :: rest)) (split : word = done ++ 'i' :: others) :
    others = [] := by
  cases others with
  | nil => rfl
  | cons next others =>
    have splits : SplitsDottedI word := by
      right
      rw [split]
      simp
    exact absurd List.mem_cons_self (alike.dotted splits)

/-- What is still to come of a word begins both texts or neither, where what has passed has the
letters of the word's beginning. The induction is on the text. -/
theorem prefix_lowercaseAfter_iff {text passed todo : List Char} (alike : ReadsAlike word text)
    (split : word = passed.map lowercaseFirst ++ todo) (before : List Char) :
    todo <+: lowercaseAfter (passed.reverse ++ before) text ↔ todo <+: text.map lowercaseFirst := by
  induction text generalizing passed todo with
  | nil => exact Iff.rfl
  | cons c rest inductionHypothesis =>
    cases todo with
    | nil => simp
    | cons d others =>
      have goesOn (same : d = lowercaseFirst c) :
          others <+: lowercaseAfter (c :: (passed.reverse ++ before)) rest ↔
            others <+: rest.map lowercaseFirst := by
        have longer : word = (passed ++ [c]).map lowercaseFirst ++ others := by
          simp [split, same]
        simpa using inductionHypothesis alike.tail longer
      rw [lowercaseAfter, List.map_cons, List.cons_prefix_cons]
      by_cases sigma : c = 'Σ'
      · subst sigma
        have letter : lowercaseFirst 'Σ' = 'σ' := by decide +kernel
        rw [if_pos rfl, List.singleton_append, List.cons_prefix_cons, letter]
        rw [letter] at goesOn
        constructor
        · rintro ⟨same, begins⟩
          have isSigma : d = 'σ' ∨ d = 'ς' := by
            rcases lowercaseSigma_cases (passed.reverse ++ before) rest with ⟨final, _⟩ | ⟨medial, _⟩
            · exact .inr (same.trans final)
            · exact .inl (same.trans medial)
          have medial := @medial_of_readsAlike _ _ before _ _ _ alike split isSigma fun meets => by
            rw [← meetsCased_lowercaseAfter ('Σ' :: (passed.reverse ++ before)) rest]
            exact meetsCased_of_prefix begins meets
          exact ⟨same.trans medial, (goesOn (same.trans medial)).mp begins⟩
        · rintro ⟨same, begins⟩
          have medial := @medial_of_readsAlike _ _ before _ _ _ alike split (.inl same) fun meets => by
            rw [← meetsCased_map_lowercaseFirst rest]
            exact meetsCased_of_prefix begins meets
          exact ⟨same.trans medial.symm, (goesOn same).mpr begins⟩
      · rw [if_neg sigma]
        by_cases dotted : c = '\u0130'
        · subst dotted
          have form : lowercaseChar '\u0130' = ['i', '\u0307'] := by decide
          have letter : lowercaseFirst '\u0130' = 'i' := by decide
          rw [form, letter, List.cons_append, List.cons_prefix_cons]
          refine and_congr_right fun same => ?_
          subst same
          obtain rfl := nil_of_readsAlike alike split
          simp
        · rw [lowercaseChar_of_ne dotted, List.singleton_append, List.cons_prefix_cons]
          exact and_congr_right goesOn

/-- A word stands at the beginning of a lowercased text or later, and never begins with the dot of a
dotted I. -/
theorem infix_lowercaseAfter_cons_iff {c : Char} {rest : List Char}
    (alike : ReadsAlike word (c :: rest)) (filled : word ≠ []) (before : List Char) :
    word <:+: lowercaseAfter before (c :: rest) ↔
      word <+: lowercaseAfter before (c :: rest) ∨ word <:+: lowercaseAfter (c :: before) rest := by
  rw [lowercaseAfter]
  by_cases sigma : c = 'Σ'
  · rw [if_pos sigma, List.singleton_append]
    exact List.infix_cons_iff
  · rw [if_neg sigma]
    by_cases dotted : c = '\u0130'
    · subst dotted
      have form : lowercaseChar '\u0130' = ['i', '\u0307'] := by decide
      have notDot : ¬ word <+: '\u0307' :: lowercaseAfter ('\u0130' :: before) rest := by
        intro begins
        obtain ⟨d, others, rfl⟩ := List.exists_cons_of_ne_nil filled
        have splits : SplitsDottedI (d :: others) :=
          .inl (congrArg some (List.cons_prefix_cons.mp begins).1)
        exact alike.dotted splits List.mem_cons_self
      rw [form, List.cons_append, List.singleton_append, List.infix_cons_iff, List.infix_cons_iff,
        or_iff_right notDot]
    · rw [lowercaseChar_of_ne dotted, List.singleton_append]
      exact List.infix_cons_iff

/-- A word stands in both texts or in neither. The induction is on the text, with what stands before
it left open. -/
theorem infix_lowercaseAfter_iff {text : List Char} (alike : ReadsAlike word text)
    (filled : word ≠ []) (before : List Char) :
    word <:+: lowercaseAfter before text ↔ word <:+: text.map lowercaseFirst := by
  induction text generalizing before with
  | nil => exact Iff.rfl
  | cons c rest inductionHypothesis =>
    have here : word <+: lowercaseAfter before (c :: rest) ↔
        word <+: (c :: rest).map lowercaseFirst :=
      @prefix_lowercaseAfter_iff word (c :: rest) [] word alike rfl before
    rw [infix_lowercaseAfter_cons_iff alike filled, here, inductionHypothesis alike.tail,
      List.map_cons, List.infix_cons_iff]

/-- In a text that reads alike with a word, the word occurs in the lowercase form exactly when it
occurs letter by letter. -/
theorem infix_lowercase_iff {text : List Char} (alike : ReadsAlike word text) (filled : word ≠ []) :
    word <:+: lowercase text ↔ word <:+: text.map lowercaseFirst :=
  infix_lowercaseAfter_iff alike filled []

/-- A dotted I among small letters puts an i with its dot in its place. -/
theorem lowercaseAfter_dotted {first second : List Char} (smallFirst : IsLowercase first)
    (smallSecond : IsLowercase second) (ahead : List Char) :
    lowercaseAfter ahead (first ++ '\u0130' :: second) = first ++ 'i' :: '\u0307' :: second := by
  have form : lowercaseChar '\u0130' = ['i', '\u0307'] := by decide
  rw [lowercaseAfter_append_of_isLowercase smallFirst, lowercaseAfter, if_neg (by decide), form,
    lowercaseAfter_of_isLowercase smallSecond]
  rfl

/-- Behind a cased letter a capital sigma among small letters is final where it may be, whatever
uncased text comes after them. -/
theorem lowercaseAfter_final {before after ahead behind : List Char}
    (mayBeFinal : MayBeFinal before after) (smallBefore : IsLowercase before)
    (smallAfter : IsLowercase after) (smallBehind : IsLowercase behind)
    (cased : meetsCased ahead = true) (uncased : meetsCased behind = false) :
    lowercaseAfter ahead (before ++ 'Σ' :: (after ++ behind)) =
      before ++ 'ς' :: (after ++ behind) := by
  have casedBefore : meetsCased (before.reverse ++ ahead) = true := by
    rw [meetsCased_append, List.all_reverse]
    split
    next => exact cased
    next stops => exact mayBeFinal.1.resolve_left stops
  have uncasedAfter : meetsCased (after ++ behind) = false := by
    rw [meetsCased_append]
    split
    next => exact uncased
    next => exact mayBeFinal.2
  have final : lowercaseSigma (before.reverse ++ ahead) (after ++ behind) = 'ς' := by
    rcases lowercaseSigma_cases (before.reverse ++ ahead) (after ++ behind) with
      ⟨final, _⟩ | ⟨_, medial⟩
    · exact final
    · exact absurd ⟨casedBefore, uncasedAfter⟩ medial
  have smallRest : IsLowercase (after ++ behind) := by
    intro c member
    exact (List.mem_append.mp member).elim (smallAfter c) (smallBehind c)
  rw [lowercaseAfter_append_of_isLowercase smallBefore, lowercaseAfter, if_pos rfl, final,
    lowercaseAfter_of_isLowercase smallRest]
  rfl

/-- Where every i comes of a dotted I, nothing but the dot follows one. -/
theorem not_infix_lowercaseAfter_of_dotted {text : List Char}
    (dotted : ∀ c ∈ text, c = '\u0130' ∨ IsSmall c ∧ c ≠ 'i') {next : Char} (other : next ≠ '\u0307')
    (before : List Char) : ¬ ['i', next] <:+: lowercaseAfter before text := by
  induction text generalizing before with
  | nil => simp [lowercaseAfter]
  | cons c rest inductionHypothesis =>
    have later := inductionHypothesis fun d member => dotted d (List.mem_cons_of_mem c member)
    rw [lowercaseAfter]
    rcases dotted c List.mem_cons_self with rfl | ⟨⟨notSigma, form⟩, notI⟩
    · have form : lowercaseChar '\u0130' = ['i', '\u0307'] := by decide
      rw [if_neg (by decide), form, List.cons_append, List.singleton_append, List.infix_cons_iff,
        List.infix_cons_iff, List.cons_prefix_cons, List.cons_prefix_cons, List.cons_prefix_cons]
      rintro (⟨_, same, _⟩ | ⟨impossible, _⟩ | found)
      · exact other same
      · exact absurd impossible (by decide)
      · exact later _ found
    · rw [if_neg notSigma, form, List.singleton_append, List.infix_cons_iff, List.cons_prefix_cons]
      rintro (⟨same, _⟩ | found)
      · exact notI same.symm
      · exact later _ found

end DashboardTools.Text
