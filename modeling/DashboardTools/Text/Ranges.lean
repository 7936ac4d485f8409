/-!
# Ranges and rows of code points

A property of characters is held as the inclusive ranges of code points that have it. A map from
characters to characters is held as rows, each of which moves evenly spaced characters by the same
distance.
-/

namespace DashboardTools.Text

/-- Inclusive ranges of code points, which may stand in any order. -/
abbrev Ranges := List (Nat × Nat)

/-- Whether a character lies in one of the ranges, its bounds included. -/
def Ranges.covers (ranges : Ranges) (c : Char) : Bool :=
  ranges.any fun range => decide (range.1 ≤ c.toNat) && decide (c.toNat ≤ range.2)

/-- Ranges cover a character exactly when its code lies within one of them. -/
theorem Ranges.covers_iff (ranges : Ranges) (c : Char) :
    ranges.covers c = true ↔ ∃ range ∈ ranges, range.1 ≤ c.toNat ∧ c.toNat ≤ range.2 := by
  simp [Ranges.covers]

/-- Whether all characters of a text are of ASCII. The empty text has none that is not. -/
def isAscii (text : List Char) : Bool := text.all fun c => decide (c.toNat < 0x80)

/-- One row covers `first`, `first + stride`, … up to `last`; each moves by `distance`. -/
structure ShiftRow where
  first : Nat
  last : Nat
  stride : Nat
  distance : Int

/-- Whether a code point is one of those the row covers. -/
def ShiftRow.covers (row : ShiftRow) (point : Nat) : Bool :=
  decide (row.first ≤ point) && decide (point ≤ row.last) &&
    decide ((point - row.first) % row.stride = 0)

/-- Where the first row that covers a character moves it. -/
def shifted? (rows : List ShiftRow) (c : Char) : Option Char :=
  (rows.find? fun row => row.covers c.toNat).map fun row =>
    Char.ofNat ((c.toNat : Int) + row.distance).toNat

end DashboardTools.Text
