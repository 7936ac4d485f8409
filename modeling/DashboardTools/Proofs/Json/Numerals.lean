import DashboardTools.Json.Printer
import DashboardTools.Json.Raw
import DashboardTools.Proofs.Decimal.Digits

/-!
# Numerals as they are written

Integers and floating point numbers are written as numerals: whole digits after a sign, a fraction
and an exponent. Digits are read as far as they go: what follows them must not look like one more.
-/

namespace DashboardTools.Json

open DashboardTools.Decimal

/-- The values of decimal digits, one for each character of the text. -/
def digitsOf (text : List Char) : List Nat := text.map fun c => c.toNat - '0'.toNat

/-- What may stand after a numeral without being taken for a part of it. -/
def EndsNumeral (rest : List Char) : Prop :=
  ∀ c ∈ rest.head?, c.isDigit = false ∧ c ≠ '.' ∧ c ≠ 'e' ∧ c ≠ 'E'

/-- The end of the text ends a numeral, since nothing is left to be taken for a part of it. -/
theorem endsNumeral_nil : EndsNumeral [] := by
  intro c member
  cases member

/-- A character that is neither a digit nor a point nor an exponent mark ends a numeral. -/
theorem endsNumeral_cons {c : Char} {rest : List Char} (digit : c.isDigit = false)
    (point : c ≠ '.') (small : c ≠ 'e') (capital : c ≠ 'E') : EndsNumeral (c :: rest) := by
  intro first member
  obtain rfl : c = first := by simpa using member
  exact ⟨digit, point, small, capital⟩

/-- The parts of a numeral as they are written: no fraction means no point. -/
structure NumeralText where
  negative : Bool
  whole : List Char
  fraction : List Char
  exponent? : Option (Bool × List Char)
  isWhole : IsWhole whole
  fractionDigits : ∀ c ∈ fraction, c.isDigit = true
  exponentDigits : ∀ sign digits, exponent? = some (sign, digits) → IsWhole digits

namespace NumeralText

/-- The sign of a negative numeral. Any other numeral has none in front. -/
def signText : (negative : Bool) → List Char
  | true => ['-']
  | false => []

/-- The fraction after its point, and no point where there is no fraction. -/
def fractionText (fraction : List Char) : List Char :=
  if fraction.isEmpty then [] else '.' :: fraction

/-- The exponent with its sign, which is written for positive exponents too. -/
def exponentText : Option (Bool × List Char) → List Char
  | none => []
  | some (negative, digits) => 'e' :: (if negative then '-' else '+') :: digits

/-- The numeral as it is written, all parts one after the other. -/
def text (written : NumeralText) : List Char :=
  signText written.negative ++ (written.whole ++ (fractionText written.fraction ++
    exponentText written.exponent?))

/-- The numeral that is written, with the values of its digits in the place of their characters. -/
def numeral (written : NumeralText) : Numeral where
  negative := written.negative
  whole := digitsOf written.whole
  fraction := digitsOf written.fraction
  exponent? := written.exponent?.map fun (negative, digits) => (negative, digitsOf digits)

end NumeralText

/-- Digits followed by none are taken whole, and the rest is left as it is. -/
theorem takeDigits_append {digits rest : List Char} (all : ∀ c ∈ digits, c.isDigit = true)
    (ends : ∀ c ∈ rest.head?, c.isDigit = false) :
    takeDigits (digits ++ rest) = (digitsOf digits, rest) := by
  have taken : rest.takeWhile Char.isDigit = [] ∧ rest.dropWhile Char.isDigit = rest := by
    cases rest with
    | nil => exact ⟨rfl, rfl⟩
    | cons c rest =>
      have stop := ends c rfl
      exact ⟨List.takeWhile_cons_of_neg (by simp [stop]), List.dropWhile_cons_of_neg (by simp [stop])⟩
  rw [takeDigits, List.takeWhile_append_of_pos all, List.dropWhile_append_of_pos all, taken.1,
    taken.2, List.append_nil, digitsOf]

/-- A whole number followed by no digit is taken whole, and the rest is left as it is. -/
theorem takeWhole?_append {whole rest : List Char} (isWhole : IsWhole whole)
    (ends : ∀ c ∈ rest.head?, c.isDigit = false) :
    takeWhole? (whole ++ rest) = some (digitsOf whole, rest) := by
  have digits := takeDigits_append isWhole.digits ends
  cases whole with
  | nil => exact absurd rfl isWhole.filled
  | cons c whole =>
    by_cases zero : c = '0'
    · subst zero
      obtain rfl : whole = [] := by simpa using isWhole.leading rfl
      rfl
    · rw [takeWhole?.eq_2 _ (by rintro rest ⟨⟩; exact zero rfl)]
      rw [digits]
      rfl

/-- An integer as a numeral, with neither a fraction nor an exponent. -/
def intWritten (n : Int) : NumeralText where
  negative := decide (n < 0)
  whole := natText n.natAbs
  fraction := []
  exponent? := none
  isWhole := natText_isWhole _
  fractionDigits := by simp
  exponentDigits := by simp

/-- The written parts of an integer put together are its text. -/
theorem intWritten_text (n : Int) : (intWritten n).text = intText n := by
  by_cases negative : n < 0 <;>
    simp [intWritten, intText, NumeralText.text, NumeralText.signText, NumeralText.fractionText,
      NumeralText.exponentText, negative]

/-- A positive decimal number after a sign is written as a numeral. -/
theorem scaled_written (number : Scaled) (positive : 0 < number.digits) (negative : Bool) :
    ∃ written : NumeralText, written.text = NumeralText.signText negative ++ number.text := by
  unfold Scaled.text
  extract_lets digits point head tail
  have isWhole : IsWhole digits := natText_isWhole _
  have leading : digits.head? ≠ some '0' := natText_leading _ positive
  split
  · -- one digit before the point, and an exponent
    refine ⟨{ negative, whole := head, fraction := tail,
              exponent? := some (decide (point - 1 < 0), natText (point - 1).natAbs),
              isWhole := isWhole.take leading Nat.one_pos, fractionDigits := ?_,
              exponentDigits := ?_ }, ?_⟩
    · exact fun c member => isWhole.digits c (List.mem_of_mem_drop member)
    · rintro sign digits ⟨⟩
      exact natText_isWhole _
    · simp [NumeralText.text, NumeralText.fractionText, NumeralText.exponentText]
  split
  · -- a zero before the point
    refine ⟨{ negative, whole := ['0'], fraction := List.replicate (-point).toNat '0' ++ digits,
              exponent? := none, isWhole := natText_isWhole 0, fractionDigits := ?_,
              exponentDigits := by simp }, ?_⟩
    · intro c member
      rcases List.mem_append.mp member with zero | digit
      · exact isDigit_of_mem_zeros c zero
      · exact isWhole.digits c digit
    · simp [NumeralText.text, NumeralText.fractionText, NumeralText.exponentText, isWhole.filled]
  split
  · -- all digits before the point
    refine ⟨{ negative, whole := digits ++ List.replicate (point - digits.length).toNat '0',
              fraction := ['0'], exponent? := none, isWhole := isWhole.append_zeros leading _,
              fractionDigits := by simp, exponentDigits := by simp }, ?_⟩
    simp [NumeralText.text, NumeralText.fractionText, NumeralText.exponentText]
  · -- the point among the digits
    have before : 0 < point.toNat := by omega
    have after : point.toNat < digits.length := by omega
    refine ⟨{ negative, whole := digits.take point.toNat, fraction := digits.drop point.toNat,
              exponent? := none, isWhole := isWhole.take leading before, fractionDigits := ?_,
              exponentDigits := by simp }, ?_⟩
    · exact fun c member => isWhole.digits c (List.mem_of_mem_drop member)
    · simp [NumeralText.text, NumeralText.fractionText, NumeralText.exponentText, after]

/-- A floating point number is written as a numeral, if at all. -/
theorem floatText?_written {x : Float} {text : List Char} (writes : floatText? x = some text) :
    ∃ written : NumeralText, written.text = text := by
  unfold floatText? at writes
  extract_lets bits sign exponent fraction at writes
  have signWritten : ∃ negative, NumeralText.signText negative = sign := by
    by_cases negative : bits / Nat.pow 2 63 = 1
    · exact ⟨true, by simp [sign, negative, NumeralText.signText]⟩
    · exact ⟨false, by simp [sign, negative, NumeralText.signText]⟩
  obtain ⟨negative, signIs⟩ := signWritten
  rw [← signIs] at writes
  split at writes
  · cases writes
  split at writes
  · obtain rfl := Option.some.inj writes
    refine ⟨{ negative, whole := ['0'], fraction := ['0'], exponent? := none,
              isWhole := natText_isWhole 0, fractionDigits := by simp, exponentDigits := by simp },
      rfl⟩
  next nonzero =>
    obtain rfl := Option.some.inj writes
    exact scaled_written _ (shortest_positive nonzero) negative

end DashboardTools.Json
