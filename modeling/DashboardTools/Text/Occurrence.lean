/-!
# Occurrences of one text in another

Three questions about a needle and a hay: whether it occurs, where it occurs first, and how
often it occurs when each occurrence starts after the last one's end. The empty needle occurs
before every character and at the end.
-/

namespace DashboardTools.Text

/-- Whether the needle stands somewhere in the hay. The empty needle stands everywhere. -/
def occursIn (needle : List Char) : List Char → Bool
  | [] => needle.isEmpty
  | c :: rest => needle.isPrefixOf (c :: rest) || occursIn needle rest

/-- A needle occurs in a hay exactly when the hay has it as a part without gaps. -/
theorem occursIn_iff {needle hay : List Char} : occursIn needle hay = true ↔ needle <:+: hay := by
  induction hay with
  | nil => simp [occursIn]
  | cons c rest inductionHypothesis =>
    simp [occursIn, inductionHypothesis, List.infix_cons_iff]

/-- The least position at which the needle stands in the hay. -/
def firstOccurrence? (needle : List Char) : List Char → Option Nat
  | [] => if needle.isEmpty then some 0 else none
  | c :: rest =>
    if needle.isPrefixOf (c :: rest) then some 0 else (firstOccurrence? needle rest).map (· + 1)

/-- A first occurrence is found exactly when there is an occurrence. -/
theorem firstOccurrence?_isSome {needle hay : List Char} :
    (firstOccurrence? needle hay).isSome = occursIn needle hay := by
  induction hay with
  | nil => cases needle <;> simp [firstOccurrence?, occursIn]
  | cons c rest inductionHypothesis =>
    by_cases here : needle.isPrefixOf (c :: rest) <;>
      simp [firstOccurrence?, occursIn, here, inductionHypothesis]

/-- Counts from a state in which the next `skip` characters belong to the last occurrence. -/
def countAfter (needle : List Char) : (skip : Nat) → List Char → Nat
  | _, [] => 0
  | skip + 1, _ :: rest => countAfter needle skip rest
  | 0, c :: rest =>
    if needle.isPrefixOf (c :: rest) then 1 + countAfter needle (needle.length - 1) rest
    else countAfter needle 0 rest

/-- How often the needle stands in the hay, read from left to right without overlap. -/
def countOccurrences (needle hay : List Char) : Nat :=
  if needle.isEmpty then hay.length + 1 else countAfter needle 0 hay

/-- A count is positive exactly when there is an occurrence. -/
theorem countOccurrences_pos_iff {needle hay : List Char} :
    0 < countOccurrences needle hay ↔ occursIn needle hay = true := by
  unfold countOccurrences
  split
  next empty =>
    have nothing : needle = [] := List.isEmpty_iff.mp empty
    simp [occursIn_iff, nothing]
  next filled =>
    induction hay with
    | nil => simpa [countAfter, occursIn] using filled
    | cons c rest inductionHypothesis =>
      by_cases here : needle.isPrefixOf (c :: rest)
      · simp only [countAfter, occursIn, here, if_true, Bool.true_or, iff_true]; omega
      · simp [countAfter, occursIn, here, inductionHypothesis]

end DashboardTools.Text
