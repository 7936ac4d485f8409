import DashboardTools.Text.Blank
import DashboardTools.Text.Lowercase

/-!
# Lowercase forms and blanks

The lowercase form of a letter may depend on what stands around it, but not on what stands beyond a
space: a space has no case, and case does not pass over it. So a text keeps its lowercase form when
a space and more text follow it. A blank is its own lowercase form, and no other character has a
blank in the form of its own.
-/

namespace DashboardTools.Text

/-- A space ends the search for a cased letter, because it is neither cased nor passed over. -/
theorem meetsCased_append_space (text rest : List Char) :
    meetsCased (text ++ ' ' :: rest) = meetsCased text := by
  have stops : caseIgnorableRanges.covers ' ' = false := by decide +kernel
  have caseless : casedRanges.covers ' ' = false := by decide +kernel
  unfold meetsCased
  rw [List.dropWhile_append]
  cases text.dropWhile caseIgnorableRanges.covers with
  | nil => simp [stops, caseless]
  | cons c others => rfl

/-- A space parts a text for lowercasing: what stands before it is lowered without looking beyond
it. -/
theorem lowercaseAfter_append_space (before text rest : List Char) :
    lowercaseAfter before (text ++ ' ' :: rest) =
      lowercaseAfter before text ++ lowercaseAfter (text.reverse ++ before) (' ' :: rest) := by
  induction text generalizing before with
  | nil => rfl
  | cons c text inductionHypothesis =>
    have sameSigma : lowercaseSigma before (text ++ ' ' :: rest) = lowercaseSigma before text := by
      unfold lowercaseSigma
      rw [meetsCased_append_space]
    rw [List.cons_append, lowercaseAfter, lowercaseAfter, sameSigma, inductionHypothesis,
      List.reverse_cons, List.append_assoc, List.append_assoc, List.singleton_append]

/-- A text that a space follows is lowercased as it is alone. -/
theorem lowercase_before_space (text rest : List Char) :
    lowercase text <+: lowercase (text ++ ' ' :: rest) :=
  ⟨_, (lowercaseAfter_append_space [] text rest).symm⟩

/-- A row moves no character to a blank. This is told by its bounds, without going through its
characters. -/
def ShiftRow.AvoidsBlanks (row : ShiftRow) : Prop :=
  ∀ range ∈ blankRanges, (row.last : Int) + row.distance < range.1 ∨
    (range.2 : Int) < row.first + row.distance

/-- Whether a row moves no character to a blank can be decided by the bounds of its range. -/
instance : DecidablePred ShiftRow.AvoidsBlanks := fun row =>
  inferInstanceAs (Decidable (∀ range ∈ blankRanges, (row.last : Int) + row.distance < range.1 ∨
    (range.2 : Int) < row.first + row.distance))

/-- No row of the lowercase table moves a character to a blank. -/
theorem lowercaseRows_avoid_blanks : ∀ row ∈ lowercaseRows, row.AvoidsBlanks := by
  decide +kernel

/-- A number that is no code point is read as zero. -/
theorem toNat_ofNat_cases (n : Nat) : (Char.ofNat n).toNat = n ∨ (Char.ofNat n).toNat = 0 := by
  by_cases valid : n.isValidChar
  · have same : Char.ofNat n = Char.ofNatAux n valid := dif_pos valid
    rw [same]
    exact .inl rfl
  · have none : Char.ofNat n = '\x00' := dif_neg valid
    rw [none]
    exact .inr rfl

/-- Every range of blanks begins above zero, so the character with code zero is none. -/
theorem blankRanges_positive : ∀ range ∈ blankRanges, 0 < range.1 := by
  decide

/-- What a row of the lowercase table moves a character to is never blank. -/
theorem not_isBlank_of_shifted {c small : Char} (moved : shifted? lowercaseRows c = some small) :
    isBlank small = false := by
  obtain ⟨row, found, rfl⟩ := Option.map_eq_some_iff.mp moved
  have covers := List.find?_some found
  have avoids := lowercaseRows_avoid_blanks row (List.mem_of_find?_eq_some found)
  simp only [ShiftRow.covers, Bool.and_eq_true, decide_eq_true_eq] at covers
  rw [Bool.eq_false_iff, isBlank, ne_eq, Ranges.covers_iff]
  rintro ⟨range, isRange, low, high⟩
  have apart := avoids range isRange
  have positive : 0 < range.1 := blankRanges_positive range isRange
  rcases toNat_ofNat_cases (↑c.toNat + row.distance).toNat with same | zero
  · omega
  · omega

/-- A blank is its own lowercase form, so lowercasing neither makes blanks nor takes them away. -/
theorem lowercaseChar_of_isBlank {c : Char} (blank : isBlank c = true) : lowercaseChar c = [c] := by
  have table : ∀ range ∈ blankRanges, ∀ n ≤ range.2 - range.1,
      lowercaseChar (Char.ofNat (range.1 + n)) = [Char.ofNat (range.1 + n)] := by decide +kernel
  obtain ⟨range, isRange, low, high⟩ := (Ranges.covers_iff _ _).mp blank
  have point := table range isRange (c.toNat - range.1) (by omega)
  rwa [Nat.add_sub_cancel' low, Char.ofNat_toNat] at point

/-- No other character has a blank in its lowercase form. -/
theorem not_isBlank_of_mem_lowercaseChar {c d : Char} (clean : isBlank c = false)
    (member : d ∈ lowercaseChar c) : isBlank d = false := by
  unfold lowercaseChar at member
  split at member
  next ascii =>
    obtain rfl := List.mem_singleton.mp member
    have table : ∀ n < 0x80, isBlank (Char.ofNat n) = false →
        isBlank (Char.ofNat n).toLower = false := by decide +kernel
    have point := table c.toNat ascii
    rw [Char.ofNat_toNat] at point
    exact point clean
  next =>
    split at member
    · have dotted : (['i', '\u0307'].all fun d => !isBlank d) = true := by decide
      simpa using List.all_eq_true.mp dotted d member
    · split at member
      next small moved =>
        obtain rfl := List.mem_singleton.mp member
        exact not_isBlank_of_shifted moved
      next =>
        obtain rfl := List.mem_singleton.mp member
        exact clean

/-- A text without blanks has none in its lowercase form. -/
theorem not_isBlank_of_mem_lowercase {text : List Char} (clean : ∀ c ∈ text, isBlank c = false) :
    ∀ c ∈ lowercase text, isBlank c = false := by
  have every (before : List Char) : ∀ c ∈ lowercaseAfter before text, isBlank c = false := by
    induction text generalizing before with
    | nil => simp [lowercaseAfter]
    | cons d rest inductionHypothesis =>
      intro c member
      rcases List.mem_append.mp member with here | later
      · split at here
        · obtain rfl := List.mem_singleton.mp here
          have sigmas : isBlank 'ς' = false ∧ isBlank 'σ' = false := by decide
          unfold lowercaseSigma
          split
          · exact sigmas.1
          · exact sigmas.2
        · exact not_isBlank_of_mem_lowercaseChar (clean d List.mem_cons_self) here
      · exact inductionHypothesis (fun e inRest => clean e (List.mem_cons_of_mem _ inRest)) _ c later
  exact every []

/-- The first character of a lowercase form is a blank only for a blank. -/
theorem not_isBlank_of_lowercaseFirst {c : Char} (clean : isBlank (lowercaseFirst c) = false) :
    isBlank c = false := by
  cases blank : isBlank c with
  | false => rfl
  | true =>
    rw [lowercaseFirst, lowercaseChar_of_isBlank blank, List.headD_cons, blank] at clean
    cases clean

end DashboardTools.Text
