import DashboardTools.Decimal.Layout

/-!
# Which digits are written

Integers and the digits of floating point numbers are written without leading zeros. The shortest
decimal of a positive floating point number is never zero, because the interval of the numbers that
round to it does not reach down to zero.
-/

namespace DashboardTools.Decimal

/-- Digits without a leading zero, or a zero on its own. -/
structure IsWhole (text : List Char) : Prop where
  filled : text ≠ []
  digits : ∀ c ∈ text, c.isDigit = true
  leading : text.head? = some '0' → text = ['0']

/-- Digits without a leading zero are a whole number as it is written, provided there is at least
one. -/
theorem isWhole_of_leading {text : List Char} (filled : text ≠ [])
    (digits : ∀ c ∈ text, c.isDigit = true) (leading : text.head? ≠ some '0') : IsWhole text :=
  ⟨filled, digits, fun zero => absurd zero leading⟩

/-- A run of zeros consists of digits, however long it is. -/
theorem isDigit_of_mem_zeros {count : Nat} : ∀ c ∈ List.replicate count '0', c.isDigit = true := by
  intro c member
  rw [List.eq_of_mem_replicate member]
  decide

/-- Some of the first digits of a whole number make a whole number. -/
theorem IsWhole.take {text : List Char} (isWhole : IsWhole text) (leading : text.head? ≠ some '0')
    {count : Nat} (some : 0 < count) : IsWhole (text.take count) := by
  refine isWhole_of_leading ?_ ?_ ?_
  · simp [isWhole.filled, Nat.pos_iff_ne_zero.mp some]
  · exact fun c member => isWhole.digits c (List.mem_of_mem_take member)
  · rw [List.head?_take, if_neg (Nat.pos_iff_ne_zero.mp some)]
    exact leading

/-- Zeros may follow the digits of a whole number that does not begin with one. -/
theorem IsWhole.append_zeros {text : List Char} (isWhole : IsWhole text)
    (leading : text.head? ≠ some '0') (count : Nat) :
    IsWhole (text ++ List.replicate count '0') := by
  refine isWhole_of_leading ?_ ?_ ?_
  · simp [isWhole.filled]
  · intro c member
    rcases List.mem_append.mp member with digit | zero
    · exact isWhole.digits c digit
    · exact isDigit_of_mem_zeros c zero
  · rw [List.head?_append, Option.or_of_isSome (List.isSome_head?.mpr isWhole.filled)]
    exact leading

/-- Of the single digits, only zero is written with the character for zero. -/
theorem digitChar_eq_zero {digit : Nat} (small : digit < 10)
    (zero : Nat.digitChar digit = '0') : digit = 0 := by
  revert digit
  decide

/-- A positive number is not written with a zero in front. -/
theorem natText_leading (n : Nat) (positive : 0 < n) : (natText n).head? ≠ some '0' := by
  induction n using Nat.strongRecOn with
  | ind n inductionHypothesis =>
    unfold natText
    rw [Nat.toDigits_eq_if (by decide)]
    split
    next small =>
      intro zero
      have isZero := digitChar_eq_zero small (Option.some.inj zero)
      omega
    next large =>
      have earlier := inductionHypothesis (n / 10) (by omega) (by omega)
      rw [List.head?_append, Option.or_of_isSome]
      · exact earlier
      · exact List.isSome_head?.mpr Nat.toDigits_ne_nil

/-- The text of a natural number is a whole number as it is written: digits, and no zero in front
unless the number is zero. -/
theorem natText_isWhole (n : Nat) : IsWhole (natText n) where
  filled := Nat.toDigits_ne_nil
  digits _ member := Nat.isDigit_of_mem_toDigits (by decide) (by decide) member
  leading zero := by
    rcases Nat.eq_zero_or_pos n with rfl | positive
    · rfl
    · exact absurd zero (natText_leading n positive)

/-- A grid point in an interval that starts above zero is not zero. -/
theorem Interval.onGrid?_positive {interval : Interval} (above : 0 < interval.low) {grid : Int}
    {digits : Nat} (found : interval.onGrid? grid = some digits) : 0 < digits := by
  unfold Interval.onGrid? at found
  extract_lets point quarter inside below next toBelow toNext at found
  have quarterPositive : 0 < quarter :=
    Nat.mul_pos (Nat.pow_pos (by decide)) (Nat.pow_pos (by decide))
  have lowPositive := Nat.mul_pos above quarterPositive
  have zeroOutside : inside 0 = false := by
    simp only [inside, Nat.zero_mul]
    split
    · exact decide_eq_false (by omega)
    · exact decide_eq_false (by omega)
  have positive (d : Nat) (within : inside d = true) : 0 < d := by
    rcases Nat.eq_zero_or_pos d with rfl | some
    · rw [zeroOutside] at within
      cases within
    · exact some
  split at found
  next both =>
    have bothIn := Bool.and_eq_true_iff.mp both
    split at found
    · exact Option.some.inj found ▸ positive _ bothIn.1
    · exact Option.some.inj found ▸ positive _ bothIn.2
  next =>
    split at found
    next isIn => exact Option.some.inj found ▸ positive _ isIn
    next =>
      split at found
      next isIn => exact Option.some.inj found ▸ positive _ isIn
      next => cases found

/-- The shortest digits between two positive bounds are not all zero. The search never rounds a
positive value away. -/
theorem Interval.search_positive {interval : Interval} (above : 0 < interval.low)
    (value : 0 < interval.value) (grids : Nat) (grid : Int) :
    0 < (interval.search grids grid).digits := by
  induction grids generalizing grid with
  | zero => exact value
  | succ grids inductionHypothesis =>
    unfold Interval.search
    split
    next digits found => exact onGrid?_positive above found
    next => exact inductionHypothesis _

/-- A number other than zero has a shortest text with a digit other than zero. -/
theorem shortest_positive {exponent fraction : Nat} (nonzero : ¬ (exponent = 0 ∧ fraction = 0)) :
    0 < (shortest exponent fraction).digits := by
  have significand : 0 < if exponent = 0 then fraction else Nat.pow 2 52 + fraction := by
    split
    · omega
    · exact Nat.add_pos_left (by decide) _
  refine Interval.search_positive ?_ ?_ 640 309
  · simp only [Interval.ofBits]
    generalize (if exponent = 0 then fraction else Nat.pow 2 52 + fraction) = quarters at significand
    split <;> omega
  · simp only [Interval.ofBits]
    omega

end DashboardTools.Decimal
