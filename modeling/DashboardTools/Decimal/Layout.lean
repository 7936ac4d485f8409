import DashboardTools.Decimal.Integer
import DashboardTools.Decimal.Shortest

/-!
# Floating point text

A floating point number is written with its shortest digits: positionally from `1e-5` up to, but
not including, `1e16`, always with a point and a digit after it, and otherwise with one digit
before the point and a signed exponent. A number that is not finite has no text.
-/

namespace DashboardTools.Decimal

/-- The text of a positive decimal number. Numbers of a middling size are laid out with a point, all
others with an exponent. -/
def Scaled.text (number : Scaled) : List Char :=
  let digits := natText number.digits
  -- how many digits stand before the point
  let point : Int := digits.length + number.exponent
  if 16 < point ∨ point < -4 then
    let head := digits.take 1
    let tail := digits.drop 1
    head ++ (if tail.isEmpty then [] else '.' :: tail) ++ 'e' ::
      (if point - 1 < 0 then '-' else '+') :: natText (point - 1).natAbs
  else if point ≤ 0 then
    ['0', '.'] ++ List.replicate (-point).toNat '0' ++ digits
  else if (digits.length : Int) ≤ point then
    digits ++ List.replicate (point - digits.length).toNat '0' ++ ['.', '0']
  else digits.take point.toNat ++ '.' :: digits.drop point.toNat

/-- The text of a floating point number, `none` when it is not finite. -/
def floatText? (x : Float) : Option (List Char) :=
  let bits := x.toBits.toNat
  let sign := if bits / Nat.pow 2 63 = 1 then ['-'] else []
  let exponent := bits / Nat.pow 2 52 % Nat.pow 2 11
  let fraction := bits % Nat.pow 2 52
  if exponent = 2047 then none
  else if exponent = 0 ∧ fraction = 0 then some (sign ++ ['0', '.', '0'])
  else some (sign ++ (shortest exponent fraction).text)

end DashboardTools.Decimal
