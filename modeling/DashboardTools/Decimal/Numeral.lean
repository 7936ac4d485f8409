/-!
# Numerals and the numbers they stand for

A numeral is a number as it is written: a sign, whole digits, digits after the point and an
exponent. It stands for an integer when it has neither point nor exponent and fits in 64 bits,
with or without a sign, and for a binary floating point number otherwise.

The floating point number is found in one pass and is not always the nearest one. Digits are
gathered into a significand while it fits in 64 bits. Whole digits left over raise the exponent
and fraction digits left over are forgotten. The significand is then rounded and multiplied or
divided once by a power of ten, or several times when that power is out of range.
-/

namespace DashboardTools.Decimal

/-- A number as it is written. Without a point there are no fraction digits; the exponent, if
any, has a sign (`true` for a minus) and digits. -/
structure Numeral where
  negative : Bool
  whole : List Nat
  fraction : List Nat
  exponent? : Option (Bool × List Nat)
  deriving DecidableEq

/-- An integer in the range of 64 bits or a floating point number. -/
inductive Number where
  | int (value : Int)
  | float (value : Float)

/-- The value of a sequence of decimal digits, the first one counting the most. -/
def digitsValue (digits : List Nat) : Nat := digits.foldl (fun value digit => value * 10 + digit) 0

/-- Takes digits into a significand while it stays below two to the 64th; answers it with the
digits that are left. -/
def gather (significand : Nat) : List Nat → Nat × List Nat
  | [] => (significand, [])
  | digit :: rest =>
    if significand * 10 + digit < Nat.pow 2 64 then gather (significand * 10 + digit) rest
    else (significand, digit :: rest)

/-- The floating point number nearest to a power of ten with an exponent of at most 308. -/
def powerOfTen (exponent : Nat) : Float := .ofScientific 1 false exponent

/-- Divides by ten to the 308th as often as `steps` says, or until nothing is left. -/
def divideSteps : (steps : Nat) → Float → Float
  | 0, x => x
  | steps + 1, x => if x == 0.0 then x else divideSteps steps (x / powerOfTen 308)

/-- Multiplies by a power of ten; `none` when the result is too large. -/
def scale? (x : Float) (exponent : Int) : Option Float :=
  if exponent < 0 then
    some (divideSteps (exponent.natAbs / 308) x / powerOfTen (exponent.natAbs % 308))
  else if x == 0.0 then some x
  else if 308 < exponent then none
  else
    let scaled := x * powerOfTen exponent.toNat
    if scaled.isInf then none else some scaled

/-- The exponent that a numeral states. An exponent beyond 31 bits has no value: it makes a
number other than zero too large or vanishingly small. -/
inductive StatedExponent where
  | plain (value : Int)
  | huge
  | tiny

/-- Reads the exponent of a numeral. One of more than 31 bits is only known to be huge or tiny. -/
def Numeral.statedExponent (numeral : Numeral) : StatedExponent :=
  match numeral.exponent? with
  | none => .plain 0
  | some (negative, digits) =>
    let value := digitsValue digits
    if Nat.pow 2 31 ≤ value then if negative then .tiny else .huge
    else .plain (if negative then -(value : Int) else value)

/-- The floating point number that a numeral stands for, `none` when it is too large. -/
def Numeral.float? (numeral : Numeral) : Option Float :=
  let (significand, wholeLeft) := gather 0 numeral.whole
  let (significand, fractionLeft) := gather significand numeral.fraction
  let point : Int := wholeLeft.length - (numeral.fraction.length - fractionLeft.length : Nat)
  let magnitude? :=
    match numeral.statedExponent with
    | .plain exponent => scale? significand.toUInt64.toFloat (point + exponent)
    | .huge => if significand = 0 then some 0.0 else none
    | .tiny => some 0.0
  magnitude?.map fun magnitude => if numeral.negative then -magnitude else magnitude

/-- The number that a numeral stands for, `none` when it is too large. A minus before zero makes
it a floating point number, because no integer keeps that sign. -/
def Numeral.number? (numeral : Numeral) : Option Number :=
  let value := digitsValue numeral.whole
  let isInteger := numeral.fraction.isEmpty && numeral.exponent?.isNone
  if isInteger && !numeral.negative && decide (value < Nat.pow 2 64) then some (.int value)
  else if isInteger && numeral.negative && decide (0 < value ∧ value ≤ Nat.pow 2 63) then
    some (.int (-(value : Int)))
  else numeral.float?.map .float

end DashboardTools.Decimal
