/-!
# Shortest decimals

A finite positive floating point number `m · 2 ^ q` is the rounding of every real number in an
interval around it, whose ends belong to it exactly when `m` is even. The shortest decimal is
found on the coarsest grid of multiples of a power of ten that has a point in that interval; such
a point, if there is one, is next to the number itself. Of two points the nearer is taken, and of
two equally near ones the even one.
-/

namespace DashboardTools.Decimal

/-- A positive number, given by its digits as one natural number and by a power of ten. -/
structure Scaled where
  digits : Nat
  exponent : Int
  deriving DecidableEq

/-- A positive binary number with the reals that round to it. All three numbers count quarters of
its last place, `2 ^ power` each. -/
structure Interval where
  value : Nat
  low : Nat
  high : Nat
  closed : Bool
  power : Int

/-- The interval of a positive finite number with these exponent and fraction bits. -/
def Interval.ofBits (exponent fraction : Nat) : Interval :=
  let significand := if exponent = 0 then fraction else Nat.pow 2 52 + fraction
  { value := 4 * significand
    low := 4 * significand - if fraction = 0 ∧ 1 < exponent then 1 else 2
    high := 4 * significand + 2
    closed := significand % 2 = 0
    power := (max exponent 1 : Nat) - 1077 }

/-- The point of a grid to answer, if the grid has a point in the interval. -/
def Interval.onGrid? (interval : Interval) (grid : Int) : Option Nat :=
  -- a point `d` and a count `x` of quarters compare as `d * point` and `x * quarter`
  let point := Nat.pow 10 grid.toNat * Nat.pow 2 (-interval.power).toNat
  let quarter := Nat.pow 2 interval.power.toNat * Nat.pow 10 (-grid).toNat
  let inside (d : Nat) : Bool :=
    if interval.closed then interval.low * quarter ≤ d * point ∧ d * point ≤ interval.high * quarter
    else interval.low * quarter < d * point ∧ d * point < interval.high * quarter
  let below := interval.value * quarter / point
  let above := below + 1
  let toBelow := interval.value * quarter - below * point
  let toAbove := above * point - interval.value * quarter
  if inside below && inside above then
    if toBelow < toAbove ∨ toBelow = toAbove ∧ below % 2 = 0 then some below else some above
  else if inside below then some below
  else if inside above then some above
  else none

/-- The first hit on the grids from one grid downwards, each ten times finer. Without a hit the
exact value is answered. -/
def Interval.search (interval : Interval) : (grids : Nat) → (grid : Int) → Scaled
  | 0, grid => ⟨interval.value, grid⟩
  | grids + 1, grid =>
    match interval.onGrid? grid with
    | some digits => ⟨digits, grid⟩
    | none => interval.search grids (grid - 1)

/-- The shortest decimal of a positive finite number with these exponent and fraction bits. -/
def shortest (exponent fraction : Nat) : Scaled := (Interval.ofBits exponent fraction).search 640 309

end DashboardTools.Decimal
