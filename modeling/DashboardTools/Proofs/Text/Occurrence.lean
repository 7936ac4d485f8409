import DashboardTools.Text.Occurrence

/-!
# Positions in a text

A needle stands first at a position where it begins and before which it does not. The search for it
finds that position, if there is one. A slice is the part of a text between two of its positions.
-/

namespace DashboardTools.Text

/-- A needle stands at this position of the hay, and at none before it. -/
def StandsFirst (needle hay : List Char) (position : Nat) : Prop :=
  needle <+: hay.drop position ∧ ∀ earlier < position, ¬ needle <+: hay.drop earlier

variable {needle : List Char}

/-- Where a word stands at the very beginning, its first position is zero and no other. -/
theorem standsFirst_of_start {hay : List Char} (here : needle <+: hay) (position : Nat) :
    StandsFirst needle hay position ↔ position = 0 := by
  constructor
  · rintro ⟨_, none⟩
    cases position with
    | zero => rfl
    | succ position => exact absurd here (none 0 (Nat.zero_lt_succ _))
  · rintro rfl
    exact ⟨here, by simp⟩

/-- Where a word does not stand at the beginning, its first position is one more than in the
rest. -/
theorem standsFirst_cons {c : Char} {rest : List Char} (elsewhere : ¬ needle <+: c :: rest)
    (position : Nat) : StandsFirst needle (c :: rest) position ↔
      ∃ before, StandsFirst needle rest before ∧ before + 1 = position := by
  constructor
  · rintro ⟨here, none⟩
    cases position with
    | zero => exact absurd here elsewhere
    | succ position =>
      exact ⟨position, ⟨here, fun earlier less => none (earlier + 1) (Nat.succ_lt_succ less)⟩, rfl⟩
  · rintro ⟨before, ⟨here, none⟩, rfl⟩
    refine ⟨here, fun earlier less => ?_⟩
    cases earlier with
    | zero => exact elsewhere
    | succ earlier => exact none earlier (Nat.lt_of_succ_lt_succ less)

/-- The search finds where the needle stands first. The induction is on the hay. -/
theorem firstOccurrence?_eq_some_iff (hay : List Char) (position : Nat) :
    firstOccurrence? needle hay = some position ↔ StandsFirst needle hay position := by
  induction hay generalizing position with
  | nil =>
    unfold firstOccurrence?
    split
    next empty =>
      obtain rfl := List.isEmpty_iff.mp empty
      rw [standsFirst_of_start List.nil_prefix, Option.some.injEq, eq_comm]
    next filled =>
      refine iff_of_false (Option.some_ne_none position).symm ?_
      intro first
      have here := first.1
      rw [List.drop_nil, List.prefix_nil] at here
      exact filled (List.isEmpty_iff.mpr here)
  | cons c rest inductionHypothesis =>
    unfold firstOccurrence?
    split
    next here =>
      rw [standsFirst_of_start (List.isPrefixOf_iff_prefix.mp here), Option.some.injEq, eq_comm]
    next elsewhere =>
      rw [standsFirst_cons (mt List.isPrefixOf_iff_prefix.mpr elsewhere), Option.map_eq_some_iff]
      simp only [inductionHypothesis]

/-- It stands first somewhere exactly when it stands anywhere, since among positions there is always
a first one. -/
theorem exists_standsFirst_iff (hay : List Char) :
    (∃ position, StandsFirst needle hay position) ↔ needle <:+: hay := by
  rw [← occursIn_iff, ← firstOccurrence?_isSome, Option.isSome_iff_exists]
  simp only [firstOccurrence?_eq_some_iff]

/-- The characters from one position of a text up to another, if these are positions of the text in
this order. -/
def slice? (text : List Char) (start stop : Nat) : Option (List Char) :=
  if start ≤ stop ∧ stop ≤ text.length then some ((text.drop start).take (stop - start)) else none

/-- A slice that exists keeps within the text, and is what stands between its two ends. -/
theorem slice?_eq_some {text part : List Char} {start stop : Nat}
    (sliced : slice? text start stop = some part) :
    (start ≤ stop ∧ stop ≤ text.length) ∧ (text.drop start).take (stop - start) = part := by
  unfold slice? at sliced
  split at sliced
  next inside => exact ⟨inside, Option.some.inj sliced⟩
  next => cases sliced

/-- A slice is what stands between the two positions, with a text before it and one after it. -/
theorem slice?_eq_some_iff (text part : List Char) (start stop : Nat) :
    slice? text start stop = some part ↔ ∃ before after, text = before ++ part ++ after ∧
      before.length = start ∧ before.length + part.length = stop := by
  constructor
  · intro sliced
    obtain ⟨inside, rfl⟩ := slice?_eq_some sliced
    refine ⟨text.take start, (text.drop start).drop (stop - start), ?_, ?_, ?_⟩
    · rw [List.append_assoc, List.take_append_drop, List.take_append_drop]
    · rw [List.length_take]
      omega
    · rw [List.length_take, List.length_take, List.length_drop]
      omega
  · rintro ⟨before, after, rfl, rfl, rfl⟩
    have inside : before.length ≤ before.length + part.length ∧
        before.length + part.length ≤ (before ++ part ++ after).length := by
      simp only [List.length_append]
      omega
    rw [slice?, if_pos inside, List.append_assoc, List.drop_left, Nat.add_sub_cancel_left,
      List.take_left]

end DashboardTools.Text
