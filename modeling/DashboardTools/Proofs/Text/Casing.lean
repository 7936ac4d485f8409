import DashboardTools.Proofs.Text.Lowercase
import DashboardTools.Proofs.Text.Packed

/-!
# What lowercasing keeps

Lowercasing changes neither which characters have case nor which ones case passes over, so what a
capital sigma meets on either side is the same before and after. A text that has been lowercased is
in lower case and stays as it is when it is lowercased again.
-/

namespace DashboardTools.Text

/-- A character in lower case: its own lowercase form, wherever it stands. -/
def IsSmall (c : Char) : Prop := c ≠ 'Σ' ∧ lowercaseChar c = [c]

/-- Only the capital dotted I has a lowercase form of two characters. -/
theorem lowercaseChar_of_ne {c : Char} (other : c ≠ '\u0130') :
    lowercaseChar c = [lowercaseFirst c] := by
  have single : ∃ small, lowercaseChar c = [small] := by
    unfold lowercaseChar
    rw [if_neg other]
    split
    · exact ⟨_, rfl⟩
    · split <;> exact ⟨_, rfl⟩
  obtain ⟨small, whole⟩ := single
  rw [lowercaseFirst, whole]
  rfl

/-- A character is a capital whose lowercase form begins with a small letter, or stays as it is. -/
theorem lowercaseFirst_cases (c : Char) :
    packedCapitals.testBit c.toNat = true ∧ packedSmalls.testBit (lowercaseFirst c).toNat = true ∨
      lowercaseFirst c = c := by
  have table : (∀ n < 0x80, packedCapitals.testBit n = true ∧
      packedSmalls.testBit (Char.ofNat n).toLower.toNat = true ∨
        (Char.ofNat n).toLower = Char.ofNat n) ∧
      packedCapitals.testBit '\u0130'.toNat = true ∧ packedSmalls.testBit 'i'.toNat = true := by
    decide +kernel
  by_cases ascii : c.toNat < 0x80
  · have form : lowercaseFirst c = c.toLower := by
      rw [lowercaseFirst, lowercaseChar, if_pos ascii, List.headD_cons]
    have point := table.1 c.toNat ascii
    rwa [Char.ofNat_toNat, ← form] at point
  · by_cases dotted : c = '\u0130'
    · subst dotted
      exact .inl table.2
    · cases moved : shifted? lowercaseRows c with
      | some small =>
        have form : lowercaseFirst c = small := by
          rw [lowercaseFirst, lowercaseChar, if_neg ascii, if_neg dotted, moved, List.headD_cons]
        rw [form]
        exact .inl (testBit_of_shifted moved)
      | none =>
        right
        rw [lowercaseFirst, lowercaseChar, if_neg ascii, if_neg dotted, moved, List.headD_cons]

/-- Lowercasing keeps a class that has all the letters it changes and all that it changes them to,
or none of either. -/
theorem covers_lowercaseFirst {ranges : Ranges} {member : Bool}
    (capitals : ∀ c : Char, packedCapitals.testBit c.toNat = true → ranges.covers c = member)
    (smalls : ∀ c : Char, packedSmalls.testBit c.toNat = true → ranges.covers c = member)
    (c : Char) : ranges.covers (lowercaseFirst c) = ranges.covers c := by
  rcases lowercaseFirst_cases c with ⟨isCapital, isSmall⟩ | same
  · rw [capitals c isCapital, smalls _ isSmall]
  · rw [same]

/-- Lowercasing keeps whether a character has case, so it does not change where a sigma is final. -/
theorem cased_lowercaseFirst (c : Char) :
    casedRanges.covers (lowercaseFirst c) = casedRanges.covers c := by
  refine @covers_lowercaseFirst casedRanges true ?_ ?_ c
  · intro c isCapital
    rw [← Ranges.testBit_packed]
    exact testBit_of_part packedCapitals_cased isCapital
  · intro c isSmall
    rw [← Ranges.testBit_packed]
    exact testBit_of_part packedSmalls_cased isSmall

/-- Lowercasing keeps whether case passes over a character, so it does not change where a sigma is
final. -/
theorem ignorable_lowercaseFirst (c : Char) :
    caseIgnorableRanges.covers (lowercaseFirst c) = caseIgnorableRanges.covers c := by
  refine @covers_lowercaseFirst caseIgnorableRanges false ?_ ?_ c
  · intro c isCapital
    rw [← Ranges.testBit_packed]
    exact testBit_of_apart packedCapitals_not_ignorable isCapital
  · intro c isSmall
    rw [← Ranges.testBit_packed]
    exact testBit_of_apart packedSmalls_not_ignorable isSmall

/-- A character that is none of the capitals is in lower case. -/
theorem isSmall_of_not_capital {c : Char} (other : packedCapitals.testBit c.toNat = false) :
    IsSmall c := by
  have capitals : packedCapitals.testBit 'Σ'.toNat = true ∧
      packedCapitals.testBit '\u0130'.toNat = true := by decide +kernel
  have notSigma : c ≠ 'Σ' := by
    rintro rfl
    rw [capitals.1] at other
    cases other
  have notDotted : c ≠ '\u0130' := by
    rintro rfl
    rw [capitals.2] at other
    cases other
  refine ⟨notSigma, ?_⟩
  rw [lowercaseChar_of_ne notDotted]
  rcases lowercaseFirst_cases c with ⟨isCapital, _⟩ | same
  · rw [other] at isCapital
    cases isCapital
  · rw [same]

/-- A lowercase form begins with a character in lower case. -/
theorem isSmall_lowercaseFirst (c : Char) : IsSmall (lowercaseFirst c) := by
  rcases lowercaseFirst_cases c with ⟨_, isSmall⟩ | same
  · exact isSmall_of_not_capital (testBit_of_apart packedSmalls_not_capital isSmall)
  · rw [same]
    have notSigma : c ≠ 'Σ' := by
      rintro rfl
      exact absurd same (by decide +kernel)
    have notDotted : c ≠ '\u0130' := by
      rintro rfl
      exact absurd same (by decide +kernel)
    exact ⟨notSigma, by rw [lowercaseChar_of_ne notDotted, same]⟩

/-- A character in lower case is its own lowercase form. -/
theorem IsSmall.lowercaseFirst_eq {c : Char} (isSmall : IsSmall c) : lowercaseFirst c = c := by
  rw [lowercaseFirst, isSmall.2, List.headD_cons]

/-- The capital sigma is not in lower case. Which small sigma it becomes depends on where it
stands. -/
theorem not_isSmall_sigma : ¬ IsSmall 'Σ' := fun isSmall => isSmall.1 rfl

/-- The capital dotted I is not in lower case. It becomes an i and a dot. -/
theorem not_isSmall_dotted : ¬ IsSmall '\u0130' := fun isSmall => absurd isSmall.2 (by decide)

/-- Both small sigmas are in lower case, the final one too. -/
theorem isSmall_sigmas : IsSmall 'σ' ∧ IsSmall 'ς' :=
  ⟨⟨by decide, by decide +kernel⟩, ⟨by decide, by decide +kernel⟩⟩

/-- Each character of a lowercase form is in lower case. -/
theorem isSmall_of_mem_lowercaseChar {c d : Char} (member : d ∈ lowercaseChar c) : IsSmall d := by
  by_cases dotted : c = '\u0130'
  · subst dotted
    have forms : d = 'i' ∨ d = '\u0307' := by
      simpa using (show d ∈ ['i', '\u0307'] from member)
    rcases forms with rfl | rfl
    · exact ⟨by decide, by decide +kernel⟩
    · exact ⟨by decide, by decide +kernel⟩
  · rw [lowercaseChar_of_ne dotted, List.mem_singleton] at member
    rw [member]
    exact isSmall_lowercaseFirst c

/-- A text in lower case, each character of which is. -/
def IsLowercase (text : List Char) : Prop := ∀ c ∈ text, IsSmall c

/-- A capital sigma becomes the final one after a cased letter with none following, and the medial
one everywhere else. -/
theorem lowercaseSigma_cases (before after : List Char) :
    lowercaseSigma before after = 'ς' ∧ meetsCased before = true ∧ meetsCased after = false ∨
      lowercaseSigma before after = 'σ' ∧ ¬ (meetsCased before = true ∧ meetsCased after = false) := by
  unfold lowercaseSigma
  cases meetsCased before <;> cases meetsCased after <;> simp

/-- What has been lowercased is in lower case, so that a second time changes nothing. -/
theorem isLowercase_lowercaseAfter (before text : List Char) :
    IsLowercase (lowercaseAfter before text) := by
  induction text generalizing before with
  | nil => exact fun c member => absurd member List.not_mem_nil
  | cons c rest inductionHypothesis =>
    intro d member
    rcases List.mem_append.mp member with here | later
    · split at here
      · obtain rfl := List.mem_singleton.mp here
        rcases lowercaseSigma_cases before rest with ⟨final, _⟩ | ⟨medial, _⟩
        · rw [final]
          exact isSmall_sigmas.2
        · rw [medial]
          exact isSmall_sigmas.1
      · exact isSmall_of_mem_lowercaseChar here
    · exact inductionHypothesis _ d later

/-- What is in lower case stays as it is, whatever follows. -/
theorem lowercaseAfter_append_of_isLowercase {first : List Char} (isLowercase : IsLowercase first)
    (before second : List Char) : lowercaseAfter before (first ++ second) =
      first ++ lowercaseAfter (first.reverse ++ before) second := by
  induction first generalizing before with
  | nil => rfl
  | cons c rest inductionHypothesis =>
    obtain ⟨notSigma, form⟩ := isLowercase c List.mem_cons_self
    have others : IsLowercase rest := fun d member => isLowercase d (List.mem_cons_of_mem _ member)
    rw [List.cons_append, lowercaseAfter, if_neg notSigma, form, inductionHypothesis others,
      List.reverse_cons, List.append_assoc]
    rfl

/-- A text in lower case is left as it is, whatever stands before it. -/
theorem lowercaseAfter_of_isLowercase {text : List Char} (isLowercase : IsLowercase text)
    (before : List Char) : lowercaseAfter before text = text := by
  have alone := lowercaseAfter_append_of_isLowercase isLowercase before []
  rwa [List.append_nil, lowercaseAfter, List.append_nil] at alone

/-- A text in lower case is its own lowercase form. -/
theorem lowercase_of_isLowercase {text : List Char} (isLowercase : IsLowercase text) :
    lowercase text = text :=
  lowercaseAfter_of_isLowercase isLowercase []

/-- Letter by letter, too, a text in lower case stays as it is. -/
theorem map_lowercaseFirst_of_isLowercase {text : List Char} (isLowercase : IsLowercase text) :
    text.map lowercaseFirst = text :=
  (List.map_congr_left fun c member => (isLowercase c member).lowercaseFirst_eq).trans
    (List.map_id' text)

/-- A letter with text in lower case around it is the only one there that can be a capital. -/
theorem not_mem_around {first second : List Char} {letter capital : Char}
    (smallFirst : IsLowercase first) (smallSecond : IsLowercase second)
    (isCapital : ¬ IsSmall capital) (other : capital ≠ letter) :
    capital ∉ first ++ letter :: second := by
  intro member
  rcases List.mem_append.mp member with inFirst | later
  · exact isCapital (smallFirst _ inFirst)
  · rcases List.mem_cons.mp later with same | inSecond
    · exact other same
    · exact isCapital (smallSecond _ inSecond)

/-- Letter by letter, a capital with text in lower case around it is all that changes. -/
theorem map_lowercaseFirst_around {first second : List Char} (smallFirst : IsLowercase first)
    (smallSecond : IsLowercase second) (letter : Char) :
    (first ++ letter :: second).map lowercaseFirst = first ++ lowercaseFirst letter :: second := by
  rw [List.map_append, List.map_cons, map_lowercaseFirst_of_isLowercase smallFirst,
    map_lowercaseFirst_of_isLowercase smallSecond]

/-- The last part of a text is lowercased as it stands, behind the first one. -/
theorem lowercaseAfter_append_suffix (before first second : List Char) :
    lowercaseAfter (first.reverse ++ before) second <:+ lowercaseAfter before (first ++ second) := by
  induction first generalizing before with
  | nil => exact List.suffix_rfl
  | cons c rest inductionHypothesis =>
    rw [List.cons_append, lowercaseAfter, List.reverse_cons, List.append_assoc,
      List.singleton_append]
    exact (inductionHypothesis (c :: before)).trans (List.suffix_append _ _)

/-- What stands beyond a space changes nothing, since no search for a cased letter goes past a
space. -/
theorem lowercaseAfter_beyond_space (before beyond text : List Char) :
    lowercaseAfter (before ++ ' ' :: beyond) text = lowercaseAfter before text := by
  induction text generalizing before with
  | nil => rfl
  | cons c rest inductionHypothesis =>
    have sameSigma : lowercaseSigma (before ++ ' ' :: beyond) rest = lowercaseSigma before rest := by
      unfold lowercaseSigma
      rw [meetsCased_append_space]
    have others := inductionHypothesis (c :: before)
    rw [List.cons_append] at others
    rw [lowercaseAfter, lowercaseAfter, sameSigma, others]

/-- A text that stands after a space is lowercased as it is alone. -/
theorem lowercase_after_space (text rest : List Char) :
    lowercase rest <:+ lowercase (text ++ ' ' :: rest) := by
  have behind := lowercaseAfter_append_suffix [] (text ++ [' ']) rest
  have space : (text ++ [' ']).reverse ++ [] = [] ++ ' ' :: text.reverse := by simp
  rwa [space, lowercaseAfter_beyond_space, List.append_assoc, List.singleton_append] at behind

/-- Whether a cased letter comes first is settled by the first character, unless case passes over
it. -/
theorem meetsCased_cons (c : Char) (rest : List Char) : meetsCased (c :: rest) =
    if caseIgnorableRanges.covers c then meetsCased rest else casedRanges.covers c := by
  unfold meetsCased
  cases passes : caseIgnorableRanges.covers c with
  | true => rw [List.dropWhile_cons_of_pos passes, if_pos rfl]
  | false => rw [List.dropWhile_cons_of_neg (by simp [passes]), if_neg Bool.false_ne_true]

/-- A text that begins with a part in which a cased letter comes first has that same letter
first. -/
theorem meetsCased_of_prefix {part whole : List Char} (begins : part <+: whole)
    (meets : meetsCased part = true) : meetsCased whole = true := by
  obtain ⟨others, rfl⟩ := begins
  induction part with
  | nil => cases meets
  | cons c part inductionHypothesis =>
    rw [List.cons_append, meetsCased_cons]
    rw [meetsCased_cons] at meets
    split at meets
    next passes => rw [if_pos passes, inductionHypothesis meets]
    next stops => rw [if_neg stops, meets]

/-- What is met first is met in the first part of a text, unless case passes over all of it. -/
theorem meetsCased_append (first second : List Char) : meetsCased (first ++ second) =
    if first.all caseIgnorableRanges.covers then meetsCased second else meetsCased first := by
  induction first with
  | nil => rfl
  | cons c first inductionHypothesis =>
    rw [List.cons_append, meetsCased_cons, inductionHypothesis, meetsCased_cons, List.all_cons]
    cases caseIgnorableRanges.covers c <;> simp

/-- Lowering each character by itself does not change whether a cased letter comes first. -/
theorem meetsCased_map_lowercaseFirst (text : List Char) :
    meetsCased (text.map lowercaseFirst) = meetsCased text := by
  induction text with
  | nil => rfl
  | cons c rest inductionHypothesis =>
    rw [List.map_cons, meetsCased_cons, meetsCased_cons, ignorable_lowercaseFirst,
      cased_lowercaseFirst, inductionHypothesis]

/-- Lowercasing a text does not change whether a cased letter comes first in it. -/
theorem meetsCased_lowercaseAfter (before text : List Char) :
    meetsCased (lowercaseAfter before text) = meetsCased text := by
  induction text generalizing before with
  | nil => rfl
  | cons c rest inductionHypothesis =>
    -- Each form begins with a character of the same kind; what an i is followed by is not looked at.
    have likewise {d : Char} {others : List Char}
        (ignorable : caseIgnorableRanges.covers d = caseIgnorableRanges.covers c)
        (cased : casedRanges.covers d = casedRanges.covers c)
        (same : caseIgnorableRanges.covers c = true → meetsCased others = meetsCased rest) :
        meetsCased (d :: others) = meetsCased (c :: rest) := by
      rw [meetsCased_cons, meetsCased_cons, ignorable, cased]
      split
      next passes => exact same passes
      next => rfl
    have goesOn : meetsCased (lowercaseAfter (c :: before) rest) = meetsCased rest :=
      inductionHypothesis _
    rw [lowercaseAfter]
    by_cases sigma : c = 'Σ'
    · subst sigma
      rw [if_pos rfl, List.singleton_append]
      rcases lowercaseSigma_cases before rest with ⟨final, _⟩ | ⟨medial, _⟩
      · rw [final]
        exact likewise (by decide +kernel) (by decide +kernel) fun _ => goesOn
      · rw [medial]
        exact likewise (by decide +kernel) (by decide +kernel) fun _ => goesOn
    · rw [if_neg sigma]
      by_cases dotted : c = '\u0130'
      · subst dotted
        have stops : caseIgnorableRanges.covers '\u0130' = false := by decide +kernel
        have form : lowercaseChar '\u0130' = [lowercaseFirst '\u0130', '\u0307'] := by decide
        rw [form, List.cons_append]
        refine likewise (ignorable_lowercaseFirst _) (cased_lowercaseFirst _) fun passes => ?_
        rw [stops] at passes
        cases passes
      · rw [lowercaseChar_of_ne dotted, List.singleton_append]
        exact likewise (ignorable_lowercaseFirst c) (cased_lowercaseFirst c) fun _ => goesOn

end DashboardTools.Text
