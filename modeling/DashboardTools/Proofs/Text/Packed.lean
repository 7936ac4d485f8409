import DashboardTools.Text.CaseTable

/-!
# Packed sets of code points

A set of code points is packed into one number, in which a bit is set for each member. What holds of
all members of one set with respect to another is then a single equation between numbers, however
many members there are. The letters that have a lowercase form of their own are packed here, and
these forms. They all have case, case passes over none of them, and no letter is in both sets.
-/

namespace DashboardTools.Text

/-- The code points of the ranges, packed into one number whose bits tell which are covered. -/
def Ranges.packed (ranges : Ranges) : Nat :=
  ranges.foldr (fun range others => (1 <<< (range.2 + 1 - range.1) - 1) <<< range.1 ||| others) 0

/-- The code points of a list, packed into one number whose bits tell which are in it. -/
def packedPoints (points : List Nat) : Nat :=
  points.foldr (fun point others => 1 <<< point ||| others) 0

/-- The packed form of ranges has a bit set exactly for the code points that the ranges cover. -/
theorem Ranges.testBit_packed (ranges : Ranges) (c : Char) :
    ranges.packed.testBit c.toNat = ranges.covers c := by
  induction ranges with
  | nil => exact Nat.zero_testBit _
  | cons range ranges inductionHypothesis =>
    have split : Ranges.packed (range :: ranges) =
        (1 <<< (range.2 + 1 - range.1) - 1) <<< range.1 ||| Ranges.packed ranges := rfl
    rw [split, Nat.testBit_or, inductionHypothesis, Nat.one_shiftLeft, Nat.testBit_shiftLeft,
      Nat.testBit_two_pow_sub_one]
    have inRange : (decide (range.1 ≤ c.toNat) &&
        decide (c.toNat - range.1 < range.2 + 1 - range.1)) =
        (decide (range.1 ≤ c.toNat) && decide (c.toNat ≤ range.2)) := by
      rw [Bool.eq_iff_iff]
      simp only [Bool.and_eq_true, decide_eq_true_eq]
      omega
    simp only [ge_iff_le, inRange]
    rfl

/-- The packed form of code points has a bit set exactly for the points of the list. -/
theorem testBit_packedPoints (points : List Nat) (point : Nat) :
    (packedPoints points).testBit point = true ↔ point ∈ points := by
  induction points with
  | nil => simp [packedPoints]
  | cons first points inductionHypothesis =>
    have split : packedPoints (first :: points) = 1 <<< first ||| packedPoints points := rfl
    rw [split, Nat.testBit_or, Bool.or_eq_true, inductionHypothesis, Nat.one_shiftLeft,
      Nat.testBit_two_pow, decide_eq_true_eq, List.mem_cons, eq_comm]

/-- A set that keeps all its bits beside another is a part of it. -/
theorem testBit_of_part {part whole point : Nat} (isPart : part &&& whole = part)
    (member : part.testBit point = true) : whole.testBit point = true := by
  rw [← isPart, Nat.testBit_and, Bool.and_eq_true] at member
  exact member.2

/-- Sets without a common bit have no common member, so one equation of numbers tells many
characters apart. -/
theorem testBit_of_apart {one other point : Nat} (apart : one &&& other = 0)
    (member : one.testBit point = true) : other.testBit point = false := by
  have both := congrArg (·.testBit point) apart
  simpa [Nat.testBit_and, member] using both

namespace ShiftRow

/-- The code points that a row covers, from its first to its last in steps of its stride. -/
def points (row : ShiftRow) : List Nat :=
  (List.range ((row.last - row.first) / row.stride + 1)).map fun step =>
    row.first + row.stride * step

/-- Where a row moves the code points that it covers. -/
def movedPoints (row : ShiftRow) : List Nat :=
  row.points.map fun (point : Nat) => (Char.ofNat ((point : Int) + row.distance).toNat).toNat

/-- A point that a row covers is one of those that it lists. -/
theorem mem_points {row : ShiftRow} {point : Nat} (covers : row.covers point = true) :
    point ∈ row.points := by
  simp only [ShiftRow.covers, Bool.and_eq_true, decide_eq_true_eq] at covers
  obtain ⟨⟨low, high⟩, aligned⟩ := covers
  have steps : row.stride * ((point - row.first) / row.stride) = point - row.first :=
    Nat.mul_div_cancel' (Nat.dvd_of_mod_eq_zero aligned)
  refine List.mem_map.mpr ⟨(point - row.first) / row.stride, ?_, by omega⟩
  rw [List.mem_range, Nat.lt_succ_iff]
  exact Nat.div_le_div_right (by omega)

end ShiftRow

/-- The letters with another lowercase form, packed: those that the mapping moves, those of ASCII
and the capital dotted I. -/
def packedCapitals : Nat :=
  packedPoints (lowercaseRows.flatMap ShiftRow.points) |||
    Ranges.packed [(0x41, 0x5A), (0x130, 0x130)]

/-- The letters that their lowercase forms begin with, packed: those that the mapping moves to, and
those of ASCII. -/
def packedSmalls : Nat :=
  packedPoints (lowercaseRows.flatMap ShiftRow.movedPoints) ||| Ranges.packed [(0x61, 0x7A)]

/-- A letter that is moved and the one that it is moved to belong to the two sets. -/
theorem testBit_of_shifted {c small : Char} (moved : shifted? lowercaseRows c = some small) :
    packedCapitals.testBit c.toNat = true ∧ packedSmalls.testBit small.toNat = true := by
  obtain ⟨row, found, rfl⟩ := Option.map_eq_some_iff.mp moved
  have isRow := List.mem_of_find?_eq_some found
  have covers := List.find?_some found
  have isPoint := ShiftRow.mem_points covers
  rw [packedCapitals, packedSmalls, Nat.testBit_or, Nat.testBit_or, Bool.or_eq_true,
    Bool.or_eq_true, testBit_packedPoints, testBit_packedPoints]
  constructor
  · exact .inl (List.mem_flatMap.mpr ⟨row, isRow, isPoint⟩)
  · exact .inl (List.mem_flatMap.mpr ⟨row, isRow, List.mem_map.mpr ⟨_, isPoint, rfl⟩⟩)

/-- Every capital is a cased letter. The check is one equation of packed numbers. -/
theorem packedCapitals_cased : packedCapitals &&& casedRanges.packed = packedCapitals := by
  decide +kernel

/-- Every small letter that has a capital is a cased letter. -/
theorem packedSmalls_cased : packedSmalls &&& casedRanges.packed = packedSmalls := by
  decide +kernel

/-- No capital is passed over by case. The check is one equation of packed numbers. -/
theorem packedCapitals_not_ignorable : packedCapitals &&& caseIgnorableRanges.packed = 0 := by
  decide +kernel

/-- No small letter that has a capital is passed over by case. -/
theorem packedSmalls_not_ignorable : packedSmalls &&& caseIgnorableRanges.packed = 0 := by
  decide +kernel

/-- No small letter that has a capital is a capital as well. -/
theorem packedSmalls_not_capital : packedSmalls &&& packedCapitals = 0 := by
  decide +kernel

end DashboardTools.Text
