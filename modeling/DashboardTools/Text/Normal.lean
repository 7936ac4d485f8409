import DashboardTools.Text.NormalTable

/-!
# Composed form

A text may show a letter with a mark as one composite or as two characters, and two marks in
either order. In composed form each has one spelling: all composites fall into their characters,
marks are put in the order of their classes, and then every mark that can joins the letter before
it, unless another mark stands between that is of its own class or a later one. Syllables of
Hangul are composites of their letters by their number.
-/

namespace DashboardTools.Text

/-- The number of the first syllable of Hangul. The others follow it without a gap. -/
def firstSyllable : Nat := 0xAC00

/-- The two characters of a syllable of Hangul: a syllable without an end and the end, or two
letters. -/
def syllableParts (point : Nat) : Char × Char :=
  let index := point - firstSyllable
  if index % 28 = 0 then
    (Char.ofNat (0x1100 + index / 588), Char.ofNat (0x1161 + index % 588 / 28))
  else (Char.ofNat (point - index % 28), Char.ofNat (0x11A7 + index % 28))

/-- Whether a code point is a syllable of Hangul, of which there are 11172. -/
def isSyllable (point : Nat) : Bool :=
  decide (firstSyllable ≤ point) && decide (point < firstSyllable + 11172)

/-- The two characters of a composite. A syllable of Hangul is taken apart by arithmetic, everything
else by the table. -/
def parts? (c : Char) : Option (Char × Char) :=
  if isSyllable c.toNat then some (syllableParts c.toNat)
  else
    (compositeData.find? (·.1 == c.toNat)).map fun row =>
      (Char.ofNat row.2.1, Char.ofNat row.2.2)

/-- The syllable of Hangul that two characters make up: a beginning with a vowel, or an open
syllable with an end. -/
def syllableOf? (first second : Nat) : Option Char :=
  if 0x1100 ≤ first ∧ first < 0x1113 ∧ 0x1161 ≤ second ∧ second < 0x1176 then
    some (Char.ofNat (firstSyllable + (first - 0x1100) * 588 + (second - 0x1161) * 28))
  else if isSyllable first ∧ (first - firstSyllable) % 28 = 0 ∧
      0x11A8 ≤ second ∧ second < 0x11C3 then
    some (Char.ofNat (first + (second - 0x11A7)))
  else none

/-- The composite of two characters, if there is one in the form that names are written in. -/
def composite? (first second : Char) : Option Char :=
  match syllableOf? first.toNat second.toNat with
  | some syllable => some syllable
  | none =>
    (compositeData.find? fun row => row.2.1 == first.toNat && row.2.2 == second.toNat).map
      fun row => Char.ofNat row.1

/-- The characters that a character falls into, at most three: a second part is never a composite,
and neither is the first part of a first part. -/
def pieces (c : Char) : List Char :=
  match parts? c with
  | none => [c]
  | some (first, last) =>
    match parts? first with
    | none => [first, last]
    | some (start, middle) => [start, middle, last]

/-- Puts marks in the order of their classes; marks of one class keep their order. -/
def sortMarks (marks : List Char) : List Char :=
  marks.mergeSort fun a b => decide (combiningClass a ≤ combiningClass b)

/-- Puts every run of marks in order; `marks` holds those read since the last other character. -/
def orderMarks (marks : List Char) : List Char → List Char
  | [] => sortMarks marks
  | c :: rest =>
    if combiningClass c = 0 then sortMarks marks ++ c :: orderMarks [] rest
    else orderMarks (marks ++ [c]) rest

/-- Whether nothing between a letter and a character keeps them apart; `between` holds what stands
there. -/
def reaches (between : List Char) (c : Char) : Bool :=
  match between.getLast? with
  | none => true
  | some last => decide (combiningClass last < combiningClass c)

/-- Composes a text that starts with a letter; `between` holds the marks that stay beside it. -/
def composeAfter (letter : Char) (between : List Char) : List Char → List Char
  | [] => letter :: between
  | c :: rest =>
    match if reaches between c then composite? letter c else none with
    | some composite => composeAfter composite between rest
    | none =>
      if combiningClass c = 0 then letter :: (between ++ composeAfter c [] rest)
      else composeAfter letter (between ++ [c]) rest

/-- Composes a text; marks before its first letter stay as they are. -/
def compose : List Char → List Char
  | [] => []
  | c :: rest => if combiningClass c = 0 then composeAfter c [] rest else c :: compose rest

/-- A text in composed form; one of ASCII alone is in that form. -/
def composed (text : List Char) : List Char :=
  if isAscii text then text else compose (orderMarks [] (text.flatMap pieces))

end DashboardTools.Text
