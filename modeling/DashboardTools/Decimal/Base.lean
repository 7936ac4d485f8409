/-!
# Digits of a base

The digits of a base up to sixteen are the decimal digits and the letters after them, small or
capital. A text of digits of a base stands for one number.
-/

namespace DashboardTools.Decimal

/-- The value of a digit up to f, in either case. -/
def digitValue? (c : Char) : Option Nat :=
  if c.isDigit then some (c.toNat - '0'.toNat)
  else if 'a' ≤ c ∧ c ≤ 'f' then some (c.toNat - 'a'.toNat + 10)
  else if 'A' ≤ c ∧ c ≤ 'F' then some (c.toNat - 'A'.toNat + 10)
  else none

/-- The number that digits of a base stand for, after a value read so far. A digit that is too large
stands for nothing. -/
def inBase? (base : Nat) : (value : Nat) → List Char → Option Nat
  | value, [] => some value
  | value, c :: rest =>
    match digitValue? c with
    | none => none
    | some digit => if digit < base then inBase? base (value * base + digit) rest else none

end DashboardTools.Decimal
