/-!
# Integer text

Integers are written in decimal digits without leading zeros, after a minus if they are negative.
-/

namespace DashboardTools.Decimal

/-- The decimal digits of a natural number, without a zero in front unless the number is zero. -/
def natText (n : Nat) : List Char := Nat.toDigits 10 n

/-- The decimal digits of an integer after its sign, which is written for negative ones only. -/
def intText (n : Int) : List Char :=
  if n < 0 then '-' :: natText n.natAbs else natText n.natAbs

end DashboardTools.Decimal
