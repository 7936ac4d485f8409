import DashboardTools.Json.Raw
import DashboardTools.Proofs.Json.Numerals

/-!
# The grammar of JSON

Which text states which raw value is said here by the grammar alone, without a reader. The reader
finds a raw value in a text exactly when the text states it, with blanks around it or without. In
one direction what was taken is put together again, step by step of the reader; in the other the
fuel is enough, because every item and field takes at least one character.
-/

namespace DashboardTools.Json

open DashboardTools.Decimal

/-- A text of blanks, or of nothing, as it may stand between two tokens. -/
def IsGapText (text : List Char) : Prop := ∀ c ∈ text, isGap c = true

/-- No characters at all are a gap, so tokens may stand next to each other. -/
theorem isGapText_nil : IsGapText [] := by
  intro c member
  cases member

/-- One or more decimal digits. Zeros may stand in front of them. -/
structure IsDigits (text : List Char) : Prop where
  filled : text ≠ []
  digits : ∀ c ∈ text, c.isDigit = true

/-- The fraction of a numeral, with its digits. Where none is written it has no digits. -/
inductive StatesFraction : List Char → List Nat → Prop where
  | nothing : StatesFraction [] []
  | point (digits : List Char) (isDigits : IsDigits digits) :
    StatesFraction ('.' :: digits) (digitsOf digits)

/-- The sign of an exponent. A plus sign says the same as no sign. -/
inductive StatesSign : List Char → Bool → Prop where
  | nothing : StatesSign [] false
  | plus : StatesSign ['+'] false
  | minus : StatesSign ['-'] true

/-- The exponent of a numeral, with its sign and its digits. Where none is written there is none. -/
inductive StatesExponent : List Char → Option (Bool × List Nat) → Prop where
  | nothing : StatesExponent [] none
  | mark (c : Char) (sign digits : List Char) (negative : Bool) (isMark : c = 'e' ∨ c = 'E')
    (signs : StatesSign sign negative) (isDigits : IsDigits digits) :
    StatesExponent (c :: (sign ++ digits)) (some (negative, digitsOf digits))

/-- A numeral: whole digits after a minus or none, a fraction and an exponent. -/
inductive StatesNumeral : List Char → Numeral → Prop where
  | parts (negative : Bool) (whole fraction exponent : List Char) (fractionDigits : List Nat)
    (exponent? : Option (Bool × List Nat)) (isWhole : IsWhole whole)
    (states : StatesFraction fraction fractionDigits)
    (raises : StatesExponent exponent exponent?) :
    StatesNumeral (NumeralText.signText negative ++ (whole ++ (fraction ++ exponent)))
      ⟨negative, digitsOf whole, fractionDigits, exponent?⟩

/-- One piece of a string: a character that stands for itself, an escaped letter, or four digits for
one unit. -/
inductive StatesPiece : List Char → Piece → Prop where
  | plain (c : Char) (shown : 0x20 ≤ c.toNat) (noQuote : c ≠ '"') (noSlash : c ≠ '\\') :
    StatesPiece [c] (.char c)
  | letter (letter c : Char) (stands : letterEscape? letter = some c) :
    StatesPiece ['\\', letter] (.char c)
  | unit (a b c d : Char) (unit : Nat) (stands : hexUnit? a b c d = some unit) :
    StatesPiece ['\\', 'u', a, b, c, d] (.escaped unit)

/-- The pieces of a string between its quotes, one after the other with nothing between them. -/
inductive StatesPieces : List Char → List Piece → Prop where
  | nothing : StatesPieces [] []
  | more (start text : List Char) (piece : Piece) (pieces : List Piece)
    (first : StatesPiece start piece) (rest : StatesPieces text pieces) :
    StatesPieces (start ++ text) (piece :: pieces)

mutual

/-- A value and how it is written. Blanks may stand inside of arrays and objects, around their
items, keys and values. -/
inductive StatesRaw : List Char → Raw → Prop where
  | null : StatesRaw "null".toList .null
  | yes : StatesRaw "true".toList (.bool true)
  | no : StatesRaw "false".toList (.bool false)
  | number (text : List Char) (numeral : Numeral) (states : StatesNumeral text numeral) :
    StatesRaw text (.number numeral)
  | string (text : List Char) (pieces : List Piece) (states : StatesPieces text pieces) :
    StatesRaw ('"' :: (text ++ ['"'])) (.string pieces)
  | emptyArray (gap : List Char) (blank : IsGapText gap) :
    StatesRaw ('[' :: (gap ++ [']'])) (.array [])
  | array (text : List Char) (items : List Raw) (states : StatesItems text items) :
    StatesRaw ('[' :: (text ++ [']'])) (.array items)
  | emptyObject (gap : List Char) (blank : IsGapText gap) :
    StatesRaw ('\x7b' :: (gap ++ ['\x7d'])) (.object [])
  | object (text : List Char) (fields : List (List Piece × Raw))
    (states : StatesFields text fields) :
    StatesRaw ('\x7b' :: (text ++ ['\x7d'])) (.object fields)

/-- The items of an array, at least one, with commas between them. -/
inductive StatesItems : List Char → List Raw → Prop where
  | last (before text after : List Char) (item : Raw) (front : IsGapText before)
    (states : StatesRaw text item) (back : IsGapText after) :
    StatesItems (before ++ (text ++ after)) [item]
  | more (before text after others : List Char) (item : Raw) (items : List Raw)
    (front : IsGapText before) (states : StatesRaw text item) (back : IsGapText after)
    (rest : StatesItems others items) :
    StatesItems (before ++ (text ++ (after ++ ',' :: others))) (item :: items)

/-- The fields of an object, at least one, with commas between them. -/
inductive StatesFields : List Char → List (List Piece × Raw) → Prop where
  | last (before name between gap text after : List Char) (key : List Piece) (value : Raw)
    (front : IsGapText before) (names : StatesPieces name key) (middle : IsGapText between)
    (inner : IsGapText gap) (states : StatesRaw text value) (back : IsGapText after) :
    StatesFields (before ++ '"' :: (name ++ '"' :: (between ++ ':' :: (gap ++ (text ++ after)))))
      [(key, value)]
  | more (before name between gap text after others : List Char) (key : List Piece) (value : Raw)
    (fields : List (List Piece × Raw)) (front : IsGapText before) (names : StatesPieces name key)
    (middle : IsGapText between) (inner : IsGapText gap) (states : StatesRaw text value)
    (back : IsGapText after) (rest : StatesFields others fields) :
    StatesFields
      (before ++ '"' :: (name ++ '"' :: (between ++ ':' :: (gap ++ (text ++ (after ++
        ',' :: others)))))) ((key, value) :: fields)

end

/-- A whole text that states a value, with blanks around it. -/
def IsDocument (text : List Char) (raw : Raw) : Prop :=
  ∃ before written after, text = before ++ (written ++ after) ∧ IsGapText before ∧
    StatesRaw written raw ∧ IsGapText after

/-- A text is the blanks at its start and what follows them. -/
theorem exists_gap (text : List Char) : ∃ gap, text = gap ++ skipGap text ∧ IsGapText gap := by
  refine ⟨text.takeWhile isGap, List.takeWhile_append_dropWhile.symm, ?_⟩
  exact List.all_eq_true.mp List.all_takeWhile

/-- Taking digits splits a text into the digits at its front and the rest, and answers the values of
those digits. -/
theorem takeDigits_sound (text : List Char) : ∃ taken, text = taken ++ (takeDigits text).2 ∧
    (takeDigits text).1 = digitsOf taken ∧ ∀ c ∈ taken, c.isDigit = true := by
  refine ⟨text.takeWhile Char.isDigit, List.takeWhile_append_dropWhile.symm, rfl, ?_⟩
  exact List.all_eq_true.mp List.all_takeWhile

/-- Digits that are taken, at least one, are written at the front of the text. -/
theorem isDigits_of_takeDigits {text rest : List Char} {digits : List Nat}
    (taken : takeDigits text = (digits, rest)) (filled : ¬ digits.isEmpty = true) :
    ∃ written, text = written ++ rest ∧ digits = digitsOf written ∧ IsDigits written := by
  obtain ⟨written, split, same, all⟩ := takeDigits_sound text
  rw [taken] at split same
  refine ⟨written, split, same, ?_, all⟩
  rintro rfl
  exact filled (by simp [show digits = digitsOf [] from same, digitsOf])

/-- A whole number taken from a text is written at its front, and its digits are the ones that are
answered. -/
theorem takeWhole?_sound {text rest : List Char} {digits : List Nat}
    (taken : takeWhole? text = some (digits, rest)) :
    ∃ whole, text = whole ++ rest ∧ digits = digitsOf whole ∧ IsWhole whole := by
  unfold takeWhole? at taken
  split at taken
  next other =>
    obtain ⟨rfl, rfl⟩ := Prod.mk.inj (Option.some.inj taken)
    exact ⟨['0'], rfl, rfl, natText_isWhole 0⟩
  next noZero =>
    split at taken
    next digits rest found =>
      split at taken
      · cases taken
      next filled =>
        obtain ⟨rfl, rfl⟩ := Prod.mk.inj (Option.some.inj taken)
        obtain ⟨whole, split, same, isDigits⟩ := isDigits_of_takeDigits found filled
        refine ⟨whole, split, same, isWhole_of_leading isDigits.filled isDigits.digits ?_⟩
        intro zero
        cases whole with
        | nil => cases zero
        | cons c whole =>
          obtain rfl : c = '0' := Option.some.inj zero
          exact noZero _ split

/-- A fraction taken from a text is written at its front. Where none is written, no digits are
answered and nothing is taken. -/
theorem takeFraction?_sound {text rest : List Char} {digits : List Nat}
    (taken : takeFraction? text = some (digits, rest)) :
    ∃ fraction, text = fraction ++ rest ∧ StatesFraction fraction digits := by
  unfold takeFraction? at taken
  split at taken
  next text =>
    split at taken
    next digits rest found =>
      split at taken
      · cases taken
      next filled =>
        obtain ⟨rfl, rfl⟩ := Prod.mk.inj (Option.some.inj taken)
        obtain ⟨written, rfl, rfl, isDigits⟩ := isDigits_of_takeDigits found filled
        exact ⟨'.' :: written, rfl, .point written isDigits⟩
  next =>
    obtain ⟨rfl, rfl⟩ := Prod.mk.inj (Option.some.inj taken)
    exact ⟨[], rfl, .nothing⟩

/-- A sign taken from a text stands at its front, and a text without one counts as not negative. -/
theorem takeSign_sound (text : List Char) :
    ∃ sign, text = sign ++ (takeSign text).2 ∧ StatesSign sign (takeSign text).1 := by
  unfold takeSign
  split
  · exact ⟨['+'], rfl, .plus⟩
  · exact ⟨['-'], rfl, .minus⟩
  · exact ⟨[], rfl, .nothing⟩

/-- An exponent taken from a text is written at its front, with the sign and the digits that are
answered. -/
theorem takeExponent?_sound {text rest : List Char} {exponent? : Option (Bool × List Nat)}
    (taken : takeExponent? text = some (exponent?, rest)) :
    ∃ exponent, text = exponent ++ rest ∧ StatesExponent exponent exponent? := by
  unfold takeExponent? at taken
  split at taken
  · obtain ⟨rfl, rfl⟩ := Prod.mk.inj (Option.some.inj taken)
    exact ⟨[], rfl, .nothing⟩
  next c text =>
    split at taken
    next isMark =>
      obtain ⟨sign, split, signs⟩ := takeSign_sound text
      generalize takeSign text = signed at split signs taken
      obtain ⟨negative, text⟩ := signed
      dsimp only at split signs taken
      split at taken
      · cases taken
      next filled =>
        obtain ⟨rfl, rfl⟩ := Prod.mk.inj (Option.some.inj taken)
        obtain ⟨written, cut, same, isDigits⟩ := isDigits_of_takeDigits (Prod.eta _).symm filled
        refine ⟨c :: (sign ++ written), ?_, ?_⟩
        · rw [split, List.cons_append, List.append_assoc, ← cut]
        · rw [same]
          exact .mark c sign written negative isMark signs isDigits
    next =>
      obtain ⟨rfl, rfl⟩ := Prod.mk.inj (Option.some.inj taken)
      exact ⟨[], rfl, .nothing⟩

/-- A numeral taken from a text is written at its front, and what is answered is what it states. -/
theorem takeNumeral?_sound {text rest : List Char} {numeral : Numeral}
    (taken : takeNumeral? text = some (numeral, rest)) :
    ∃ written, text = written ++ rest ∧ StatesNumeral written numeral := by
  unfold takeNumeral? at taken
  split at taken
  next negative afterSign found =>
    have signed : text = NumeralText.signText negative ++ afterSign := by
      split at found
      · obtain ⟨rfl, rfl⟩ := Prod.mk.inj found
        rfl
      · obtain ⟨rfl, rfl⟩ := Prod.mk.inj found
        rfl
    simp only [Option.bind_eq_bind, Option.bind_eq_some_iff] at taken
    obtain ⟨⟨whole, afterWhole⟩, wholeTaken, ⟨fraction, afterFraction⟩, fractionTaken,
      ⟨exponent?, afterExponent⟩, exponentTaken, same⟩ := taken
    obtain ⟨rfl, rfl⟩ := Prod.mk.inj (Option.some.inj same)
    obtain ⟨wholeText, rfl, rfl, isWhole⟩ := takeWhole?_sound wholeTaken
    obtain ⟨fractionText, rfl, states⟩ := takeFraction?_sound fractionTaken
    obtain ⟨exponentText, rfl, raises⟩ := takeExponent?_sound exponentTaken
    refine ⟨_, ?_, .parts negative wholeText fractionText exponentText fraction exponent? isWhole
      states raises⟩
    rw [signed]
    simp only [List.append_assoc]

/-- The induction is on the reader's own recursion; a backslash with nothing behind it is the one
case in which the last rule applies to no plain character. -/
theorem takePieces_sound {text rest : List Char} {pieces : List Piece}
    (taken : takePieces text = some (pieces, rest)) :
    ∃ written, text = written ++ '"' :: rest ∧ StatesPieces written pieces := by
  induction text using takePieces.induct generalizing pieces with
  | case1 => cases taken
  | case2 text =>
    obtain ⟨rfl, rfl⟩ := Prod.mk.inj (Option.some.inj taken)
    exact ⟨[], rfl, .nothing⟩
  | case3 a b c d text inductionHypothesis =>
    simp only [takePieces, Option.bind_eq_bind, Option.bind_eq_some_iff] at taken
    obtain ⟨unit, stands, ⟨others, later⟩, further, same⟩ := taken
    obtain ⟨rfl, rfl⟩ := Prod.mk.inj (Option.some.inj same)
    obtain ⟨written, rfl, states⟩ := inductionHypothesis further
    exact ⟨_, rfl, .more _ _ _ _ (.unit a b c d unit stands) states⟩
  | case4 letter text noUnit inductionHypothesis =>
    rw [takePieces.eq_4 _ _ noUnit] at taken
    simp only [Option.bind_eq_bind, Option.bind_eq_some_iff] at taken
    obtain ⟨c, stands, ⟨others, later⟩, further, same⟩ := taken
    obtain ⟨rfl, rfl⟩ := Prod.mk.inj (Option.some.inj same)
    obtain ⟨written, rfl, states⟩ := inductionHypothesis further
    exact ⟨_, rfl, .more _ _ _ _ (.letter letter c stands) states⟩
  | case5 c text noQuote noUnit noLetter control =>
    rw [takePieces.eq_5 _ _ noQuote noUnit noLetter, if_pos control] at taken
    cases taken
  | case6 c text noQuote noUnit noLetter shown inductionHypothesis =>
    rw [takePieces.eq_5 _ _ noQuote noUnit noLetter, if_neg shown] at taken
    simp only [Option.bind_eq_bind, Option.bind_eq_some_iff] at taken
    obtain ⟨⟨others, later⟩, further, same⟩ := taken
    obtain ⟨rfl, rfl⟩ := Prod.mk.inj (Option.some.inj same)
    have noSlash : c ≠ '\\' := by
      intro slash
      cases text with
      | nil => cases further
      | cons letter text => exact noLetter letter text slash rfl
    obtain ⟨written, rfl, states⟩ := inductionHypothesis further
    exact ⟨_, rfl, .more _ _ _ _ (.plain c (Nat.le_of_not_lt shown) noQuote noSlash) states⟩

mutual

/-- What is taken as a value states it, behind some blanks. -/
theorem takeRaw_sound : ∀ (fuel : Nat) {text rest : List Char} {raw : Raw},
    takeRaw fuel text = some (raw, rest) →
      ∃ gap written, text = gap ++ (written ++ rest) ∧ IsGapText gap ∧ StatesRaw written raw
  | 0, _, _, _, taken => by cases taken
  | fuel + 1, text, rest, raw, taken => by
    obtain ⟨gap, split, blank⟩ := exists_gap text
    unfold takeRaw at taken
    split at taken
    next later found =>
      obtain ⟨rfl, rfl⟩ := Prod.mk.inj (Option.some.inj taken)
      rw [found] at split
      exact ⟨gap, _, split, blank, .null⟩
    next later found =>
      obtain ⟨rfl, rfl⟩ := Prod.mk.inj (Option.some.inj taken)
      rw [found] at split
      exact ⟨gap, _, split, blank, .yes⟩
    next later found =>
      obtain ⟨rfl, rfl⟩ := Prod.mk.inj (Option.some.inj taken)
      rw [found] at split
      exact ⟨gap, _, split, blank, .no⟩
    next later found =>
      simp only [Option.bind_eq_bind, Option.bind_eq_some_iff] at taken
      obtain ⟨⟨pieces, behind⟩, piecesTaken, same⟩ := taken
      obtain ⟨rfl, rfl⟩ := Prod.mk.inj (Option.some.inj same)
      obtain ⟨written, rfl, states⟩ := takePieces_sound piecesTaken
      rw [found] at split
      refine ⟨gap, '"' :: (written ++ ['"']), ?_, blank, .string written pieces states⟩
      simpa using split
    next later found =>
      obtain ⟨inner, innerSplit, innerBlank⟩ := exists_gap later
      split at taken
      next behind closes =>
        obtain ⟨rfl, rfl⟩ := Prod.mk.inj (Option.some.inj taken)
        rw [closes] at innerSplit
        rw [found, innerSplit] at split
        refine ⟨gap, '[' :: (inner ++ [']']), ?_, blank, .emptyArray inner innerBlank⟩
        simpa using split
      next =>
        simp only [Option.bind_eq_bind, Option.bind_eq_some_iff] at taken
        obtain ⟨⟨items, behind⟩, itemsTaken, same⟩ := taken
        obtain ⟨rfl, rfl⟩ := Prod.mk.inj (Option.some.inj same)
        obtain ⟨written, rfl, states⟩ := takeItems_sound fuel itemsTaken
        rw [found] at split
        refine ⟨gap, '[' :: (written ++ [']']), ?_, blank, .array written items states⟩
        simpa using split
    next later found =>
      obtain ⟨inner, innerSplit, innerBlank⟩ := exists_gap later
      split at taken
      next behind closes =>
        obtain ⟨rfl, rfl⟩ := Prod.mk.inj (Option.some.inj taken)
        rw [closes] at innerSplit
        rw [found, innerSplit] at split
        refine ⟨gap, '\x7b' :: (inner ++ ['\x7d']), ?_, blank, .emptyObject inner innerBlank⟩
        simpa using split
      next =>
        simp only [Option.bind_eq_bind, Option.bind_eq_some_iff] at taken
        obtain ⟨⟨fields, behind⟩, fieldsTaken, same⟩ := taken
        obtain ⟨rfl, rfl⟩ := Prod.mk.inj (Option.some.inj same)
        obtain ⟨written, rfl, states⟩ := takeFields_sound fuel fieldsTaken
        rw [found] at split
        refine ⟨gap, '\x7b' :: (written ++ ['\x7d']), ?_, blank, .object written fields states⟩
        simpa using split
    next =>
      simp only [Option.bind_eq_bind, Option.bind_eq_some_iff] at taken
      obtain ⟨⟨numeral, behind⟩, numeralTaken, same⟩ := taken
      obtain ⟨rfl, rfl⟩ := Prod.mk.inj (Option.some.inj same)
      obtain ⟨written, cut, states⟩ := takeNumeral?_sound numeralTaken
      rw [cut] at split
      exact ⟨gap, written, split, blank, .number written numeral states⟩

/-- What is taken as items states them, before the closing bracket. -/
theorem takeItems_sound : ∀ (fuel : Nat) {text rest : List Char} {items : List Raw},
    takeItems fuel text = some (items, rest) →
      ∃ written, text = written ++ ']' :: rest ∧ StatesItems written items
  | 0, _, _, _, taken => by cases taken
  | fuel + 1, text, rest, items, taken => by
    simp only [takeItems, Option.bind_eq_bind, Option.bind_eq_some_iff] at taken
    obtain ⟨⟨item, later⟩, itemTaken, taken⟩ := taken
    obtain ⟨before, written, rfl, front, states⟩ := takeRaw_sound fuel itemTaken
    obtain ⟨after, split, back⟩ := exists_gap later
    split at taken
    next behind found =>
      simp only [Option.bind_eq_some_iff] at taken
      obtain ⟨⟨others, last⟩, othersTaken, same⟩ := taken
      obtain ⟨rfl, rfl⟩ := Prod.mk.inj (Option.some.inj same)
      obtain ⟨more, rfl, rest⟩ := takeItems_sound fuel othersTaken
      rw [found] at split
      refine ⟨_, ?_, .more before written after more item others front states back rest⟩
      rw [split]
      simp
    next behind found =>
      obtain ⟨rfl, rfl⟩ := Prod.mk.inj (Option.some.inj taken)
      rw [found] at split
      refine ⟨_, ?_, .last before written after item front states back⟩
      rw [split]
      simp
    next => cases taken

/-- What is taken as fields states them, before the closing brace. -/
theorem takeFields_sound : ∀ (fuel : Nat) {text rest : List Char}
    {fields : List (List Piece × Raw)}, takeFields fuel text = some (fields, rest) →
      ∃ written, text = written ++ '\x7d' :: rest ∧ StatesFields written fields
  | 0, _, _, _, taken => by cases taken
  | fuel + 1, text, rest, fields, taken => by
    obtain ⟨before, split, front⟩ := exists_gap text
    unfold takeFields at taken
    split at taken
    next named found =>
      simp only [Option.bind_eq_bind, Option.bind_eq_some_iff] at taken
      obtain ⟨⟨key, afterKey⟩, keyTaken, taken⟩ := taken
      obtain ⟨name, rfl, names⟩ := takePieces_sound keyTaken
      obtain ⟨between, keySplit, middle⟩ := exists_gap afterKey
      split at taken
      next marked colon =>
        simp only [Option.bind_eq_some_iff] at taken
        obtain ⟨⟨value, later⟩, valueTaken, taken⟩ := taken
        obtain ⟨gap, written, rfl, inner, states⟩ := takeRaw_sound fuel valueTaken
        obtain ⟨after, valueSplit, back⟩ := exists_gap later
        rw [colon] at keySplit
        split at taken
        next behind comma =>
          simp only [Option.bind_eq_some_iff] at taken
          obtain ⟨⟨others, last⟩, othersTaken, same⟩ := taken
          obtain ⟨rfl, rfl⟩ := Prod.mk.inj (Option.some.inj same)
          obtain ⟨more, rfl, rest⟩ := takeFields_sound fuel othersTaken
          rw [comma] at valueSplit
          refine ⟨_, ?_, .more before name between gap written after more key value others front
            names middle inner states back rest⟩
          rw [split, found, keySplit, valueSplit]
          simp
        next behind brace =>
          obtain ⟨rfl, rfl⟩ := Prod.mk.inj (Option.some.inj taken)
          rw [brace] at valueSplit
          refine ⟨_, ?_, .last before name between gap written after key value front names middle
            inner states back⟩
          rw [split, found, keySplit, valueSplit]
          simp
        next => cases taken
      next => cases taken
    next => cases taken

end

/-- A gap in front of a text is skipped together with whatever gap the text begins with. -/
theorem skipGap_append {gap : List Char} (blank : IsGapText gap) (text : List Char) :
    skipGap (gap ++ text) = skipGap text := List.dropWhile_append_of_pos blank

/-- Skipping stops at once before a character that is no gap. -/
theorem skipGap_cons {c : Char} (filled : isGap c = false) (text : List Char) :
    skipGap (c :: text) = c :: text := List.dropWhile_cons_of_neg (by simp [filled])

/-- A reader of values takes no notice of blanks in front. -/
theorem takeRaw_append {gap : List Char} (blank : IsGapText gap) (fuel : Nat)
    (text : List Char) : takeRaw fuel (gap ++ text) = takeRaw fuel text := by
  cases fuel with
  | zero => rfl
  | succ fuel => simp only [takeRaw, skipGap_append blank]

/-- Items are taken alike with and without a gap in front of them. -/
theorem takeItems_append {gap : List Char} (blank : IsGapText gap) (fuel : Nat)
    (text : List Char) : takeItems fuel (gap ++ text) = takeItems fuel text := by
  cases fuel with
  | zero => rfl
  | succ fuel => simp only [takeItems, takeRaw_append blank]

/-- A gap after a numeral ends it if what follows the gap would. No character of a gap can continue
a numeral. -/
theorem endsNumeral_gap {gap rest : List Char} (blank : IsGapText gap)
    (ends : EndsNumeral rest) : EndsNumeral (gap ++ rest) := by
  cases gap with
  | nil => exact ends
  | cons c gap =>
    have isBlank := blank c List.mem_cons_self
    simp only [isGap, Bool.or_eq_true, beq_iff_eq] at isBlank
    rcases isBlank with ((rfl | rfl) | rfl) | rfl <;>
      exact endsNumeral_cons (by decide) (by decide) (by decide) (by decide)

/-- A written fraction is taken whole, provided that no digit and no second point follows it. -/
theorem takeFraction?_complete {fraction rest : List Char} {digits : List Nat}
    (states : StatesFraction fraction digits)
    (ends : ∀ c ∈ rest.head?, c.isDigit = false ∧ c ≠ '.') :
    takeFraction? (fraction ++ rest) = some (digits, rest) := by
  cases states with
  | nothing =>
    refine takeFraction?.eq_2 _ ?_
    rintro rest rfl
    exact (ends '.' rfl).2 rfl
  | point written isDigits =>
    have taken := takeDigits_append isDigits.digits fun c member => (ends c member).1
    have filled : (digitsOf written).isEmpty = false := by simp [digitsOf, isDigits.filled]
    simp [takeFraction?, taken, filled]

/-- A written sign is taken whole when digits follow. Digits in front of which no sign stands count
as not negative. -/
theorem takeSign_complete {sign digits : List Char} {negative : Bool}
    (signs : StatesSign sign negative) (isDigits : IsDigits digits) (rest : List Char) :
    takeSign (sign ++ (digits ++ rest)) = (negative, digits ++ rest) := by
  cases signs with
  | plus => rfl
  | minus => rfl
  | nothing =>
    cases digits with
    | nil => exact absurd rfl isDigits.filled
    | cons c digits =>
      have isDigit := isDigits.digits c List.mem_cons_self
      unfold takeSign
      split
      next same =>
        obtain ⟨rfl, _⟩ := List.cons.inj same
        cases isDigit
      next same =>
        obtain ⟨rfl, _⟩ := List.cons.inj same
        cases isDigit
      next => rfl

/-- A written exponent is taken whole, provided that what follows ends a numeral. -/
theorem takeExponent?_complete {exponent rest : List Char} {exponent? : Option (Bool × List Nat)}
    (raises : StatesExponent exponent exponent?) (ends : EndsNumeral rest) :
    takeExponent? (exponent ++ rest) = some (exponent?, rest) := by
  cases raises with
  | nothing =>
    cases rest with
    | nil => rfl
    | cons c rest =>
      obtain ⟨_, _, small, capital⟩ := ends c rfl
      simp [takeExponent?, small, capital]
  | mark c sign digits negative isMark signs isDigits =>
    have taken := takeDigits_append isDigits.digits fun c member => (ends c member).1
    have filled : (digitsOf digits).isEmpty = false := by simp [digitsOf, isDigits.filled]
    simp only [List.cons_append, List.append_assoc, takeExponent?, if_pos isMark,
      takeSign_complete signs isDigits, taken, filled, Bool.false_eq_true, if_false]

/-- A numeral that is stated is taken, whatever follows that cannot be a part of it. -/
theorem takeNumeral?_complete {written rest : List Char} {numeral : Numeral}
    (states : StatesNumeral written numeral) (ends : EndsNumeral rest) :
    takeNumeral? (written ++ rest) = some (numeral, rest) := by
  obtain ⟨negative, whole, fraction, exponent, digits, exponent?, isWhole, isFraction, raises⟩ := states
  have exponentTaken := takeExponent?_complete raises ends
  have afterFraction : ∀ c ∈ (exponent ++ rest).head?, c.isDigit = false ∧ c ≠ '.' := by
    intro c member
    cases raises with
    | nothing => exact ⟨(ends c member).1, (ends c member).2.1⟩
    | mark mark sign digits negative isMark signs isDigits =>
      obtain rfl : mark = c := by simpa using member
      rcases isMark with rfl | rfl <;> decide
  have fractionTaken := takeFraction?_complete isFraction afterFraction
  have afterWhole : ∀ c ∈ (fraction ++ (exponent ++ rest)).head?, c.isDigit = false := by
    intro c member
    cases isFraction with
    | nothing => exact (afterFraction c member).1
    | point digits isDigits =>
      obtain rfl : '.' = c := by simpa using member
      decide
  have wholeTaken := takeWhole?_append isWhole afterWhole
  simp only [List.append_assoc, takeNumeral?]
  cases negative with
  | true => simp [NumeralText.signText, wholeTaken, fractionTaken, exponentTaken]
  | false =>
    cases whole with
    | nil => exact absurd rfl isWhole.filled
    | cons c whole =>
      have unsigned : c ≠ '-' := by
        rintro rfl
        exact absurd (isWhole.digits '-' List.mem_cons_self) (by decide)
      simp only [List.cons_append] at wholeTaken
      simp [NumeralText.signText, wholeTaken, fractionTaken, exponentTaken, unsigned]

/-- The pieces of a string are taken whole up to the quote that closes it, whatever follows the
quote. -/
theorem takePieces_complete {written : List Char} {pieces : List Piece}
    (states : StatesPieces written pieces) (rest : List Char) :
    takePieces (written ++ '"' :: rest) = some (pieces, rest) := by
  induction states with
  | nothing => rfl
  | more start text piece pieces first _ inductionHypothesis =>
    rw [List.append_assoc]
    cases first with
    | plain c shown noQuote noSlash =>
      rw [List.singleton_append, takePieces.eq_5 _ _ (fun same => noQuote same)
        (fun _ _ _ _ _ same => absurd same noSlash) (fun _ _ same => absurd same noSlash),
        if_neg (Nat.not_lt_of_le shown), inductionHypothesis]
      rfl
    | letter letter c stands =>
      have noUnit : letter ≠ 'u' := by
        rintro rfl
        cases stands
      rw [List.cons_append, List.singleton_append,
        takePieces.eq_4 _ _ (fun _ _ _ _ _ same => absurd same noUnit), stands, inductionHypothesis]
      rfl
    | unit a b c d unit stands =>
      simp [takePieces, stands, inductionHypothesis]

/-- A numeral starts with a minus or a digit, never with a plus or a point. -/
theorem StatesNumeral.start {written : List Char} {numeral : Numeral}
    (states : StatesNumeral written numeral) :
    ∃ c text, written = c :: text ∧ (c = '-' ∨ c.isDigit = true) := by
  obtain ⟨negative, whole, fraction, exponent, digits, exponent?, isWhole, _, _⟩ := states
  cases negative with
  | true => exact ⟨'-', _, rfl, .inl rfl⟩
  | false =>
    cases whole with
    | nil => exact absurd rfl isWhole.filled
    | cons c whole => exact ⟨c, _, rfl, .inr (isWhole.digits c List.mem_cons_self)⟩

/-- A character that starts a numeral is none that is neither a minus nor a digit. -/
theorem ne_of_starts {c other : Char} (starts : c = '-' ∨ c.isDigit = true)
    (otherwise : other ≠ '-' ∧ other.isDigit = false) : c ≠ other := by
  rintro rfl
  rcases starts with minus | digit
  · exact otherwise.1 minus
  · rw [otherwise.2] at digit
    cases digit

/-- Blanks are not visible: each of them is at most a space. -/
theorem isGap_of_visible {c : Char} (visible : 0x20 < c.toNat) : isGap c = false := by
  have differs (blank : Char) (low : blank.toNat ≤ 0x20) : c ≠ blank := by
    rintro rfl
    omega
  simp [isGap, differs ' ' (by decide), differs '\t' (by decide), differs '\n' (by decide),
    differs '\r' (by decide)]

/-- The first character of a numeral is a visible one, so it is neither skipped as a gap nor refused
as a control character. -/
theorem visible_of_starts {c : Char} (starts : c = '-' ∨ c.isDigit = true) : 0x20 < c.toNat := by
  rcases starts with rfl | digit
  · decide
  · have above : '0'.toNat ≤ c.toNat :=
      UInt32.le_iff_toNat_le.mp (of_decide_eq_true (Bool.and_eq_true_iff.mp digit).1)
    exact Nat.lt_of_lt_of_le (by decide) above

/-- A written numeral is taken as a number, provided that what follows ends it. -/
theorem takeRaw_complete_number {written rest : List Char} {numeral : Numeral}
    (states : StatesNumeral written numeral) (ends : EndsNumeral rest) (fuel : Nat) :
    takeRaw (fuel + 1) (written ++ rest) = some (.number numeral, rest) := by
  have taken := takeNumeral?_complete states ends
  obtain ⟨c, text, rfl, starts⟩ := states.start
  rw [List.cons_append] at taken ⊢
  rw [takeRaw, skipGap_cons (isGap_of_visible (visible_of_starts starts))]
  split
  case h_7 => simp [taken]
  all_goals
    rename_i same
    injection same with same
    exact absurd same (ne_of_starts starts (by decide))

/-- A value starts with a character that can be seen and is no closing bracket. -/
theorem StatesRaw.start {written : List Char} {raw : Raw} (states : StatesRaw written raw) :
    ∃ c text, written = c :: text ∧ 0x20 < c.toNat ∧ c ≠ ']' := by
  cases states with
  | null => exact ⟨'n', _, rfl, by decide, by decide⟩
  | yes => exact ⟨'t', _, rfl, by decide, by decide⟩
  | no => exact ⟨'f', _, rfl, by decide, by decide⟩
  | number _ numeral states =>
    obtain ⟨c, text, same, starts⟩ := states.start
    exact ⟨c, text, same, visible_of_starts starts, ne_of_starts starts (by decide)⟩
  | string text pieces states => exact ⟨'"', _, rfl, by decide, by decide⟩
  | emptyArray gap blank => exact ⟨'[', _, rfl, by decide, by decide⟩
  | array text items states => exact ⟨'[', _, rfl, by decide, by decide⟩
  | emptyObject gap blank => exact ⟨'\x7b', _, rfl, by decide, by decide⟩
  | object text fields states => exact ⟨'\x7b', _, rfl, by decide, by decide⟩

/-- The first item comes into sight behind the blanks, and it does not look like the end of the
array. -/
theorem StatesItems.sight {written : List Char} {items : List Raw}
    (states : StatesItems written items) (rest : List Char) :
    ∃ c tail, skipGap (written ++ rest) = c :: tail ∧ c ≠ ']' := by
  cases states with
  | last before text after item front states back =>
    obtain ⟨c, tail, rfl, visible, unclosed⟩ := states.start
    refine ⟨c, tail ++ (after ++ rest), ?_, unclosed⟩
    simp only [List.append_assoc, List.cons_append]
    rw [skipGap_append front, skipGap_cons (isGap_of_visible visible)]
  | more before text after others item items front states back more =>
    obtain ⟨c, tail, rfl, visible, unclosed⟩ := states.start
    refine ⟨c, tail ++ (after ++ ',' :: (others ++ rest)), ?_, unclosed⟩
    simp only [List.append_assoc, List.cons_append]
    rw [skipGap_append front, skipGap_cons (isGap_of_visible visible)]

/-- The first key comes into sight behind the blanks, with its opening quote. -/
theorem StatesFields.sight {written : List Char} {fields : List (List Piece × Raw)}
    (states : StatesFields written fields) (rest : List Char) :
    ∃ tail, skipGap (written ++ rest) = '"' :: tail := by
  cases states with
  | last before name between gap text after key value front names middle inner states back =>
    refine ⟨name ++ '"' :: (between ++ ':' :: (gap ++ (text ++ (after ++ rest)))), ?_⟩
    simp only [List.append_assoc, List.cons_append]
    rw [skipGap_append front, skipGap_cons (by decide)]
  | more before name between gap text after others key value fields front names middle inner states
      back more =>
    refine ⟨name ++ '"' :: (between ++ ':' :: (gap ++ (text ++ (after ++ ',' :: (others ++ rest))))),
      ?_⟩
    simp only [List.append_assoc, List.cons_append]
    rw [skipGap_append front, skipGap_cons (by decide)]

/-- An array whose first item is in sight is read item by item. -/
theorem takeRaw_array {fuel : Nat} {text rest : List Char} {items : List Raw}
    (sight : ∃ c tail, skipGap text = c :: tail ∧ c ≠ ']')
    (read : takeItems fuel text = some (items, rest)) :
    takeRaw (fuel + 1) ('[' :: text) = some (.array items, rest) := by
  obtain ⟨c, tail, starts, unclosed⟩ := sight
  simp [takeRaw, skipGap_cons (show isGap '[' = false by decide), starts, unclosed, read]

/-- An object whose first key is in sight is read field by field. -/
theorem takeRaw_object {fuel : Nat} {text rest : List Char} {fields : List (List Piece × Raw)}
    (sight : ∃ tail, skipGap text = '"' :: tail)
    (read : takeFields fuel text = some (fields, rest)) :
    takeRaw (fuel + 1) ('{' :: text) = some (.object fields, rest) := by
  obtain ⟨tail, starts⟩ := sight
  simp [takeRaw, skipGap_cons (show isGap '{' = false by decide), starts, read]

/-- An object with nothing but blanks in it is read as empty. -/
theorem takeRaw_emptyObject {gap : List Char} (blank : IsGapText gap) (fuel : Nat)
    (rest : List Char) :
    takeRaw (fuel + 1) ('\x7b' :: (gap ++ '\x7d' :: rest)) = some (.object [], rest) := by
  have closes : skipGap (gap ++ '\x7d' :: rest) = '\x7d' :: rest := by
    rw [skipGap_append blank, skipGap_cons (by decide)]
  simp [takeRaw, skipGap_cons (show isGap '\x7b' = false by decide), closes]

/-- An item before the closing bracket is the last one. -/
theorem takeItems_last {fuel : Nat} {text gap rest : List Char} {item : Raw}
    (blank : IsGapText gap)
    (read : takeRaw fuel text = some (item, gap ++ ']' :: rest)) :
    takeItems (fuel + 1) text = some ([item], rest) := by
  have closes : skipGap (gap ++ ']' :: rest) = ']' :: rest := by
    rw [skipGap_append blank, skipGap_cons (by decide)]
  simp [takeItems, read, closes]

/-- A field in sight is taken up to the end of its value. -/
theorem takeFields_keyed {before name between gap text after : List Char} {key : List Piece}
    {value : Raw} {fuel : Nat} (front : IsGapText before) (names : StatesPieces name key)
    (middle : IsGapText between) (inner : IsGapText gap)
    (taken : takeRaw fuel text = some (value, after)) :
    takeFields (fuel + 1)
        (before ++ '"' :: (name ++ '"' :: (between ++ ':' :: (gap ++ text)))) =
      match skipGap after with
      | ',' :: rest => do
        let (fields, rest) ← takeFields fuel rest
        some ((key, value) :: fields, rest)
      | '\x7d' :: rest => some ([(key, value)], rest)
      | _ => none := by
  rw [takeFields, skipGap_append front, skipGap_cons (by decide)]
  simp only [takePieces_complete names, Option.bind_eq_bind, Option.bind_some]
  rw [skipGap_append middle, skipGap_cons (by decide)]
  simp only [takeRaw_append inner, taken]
  rfl

mutual

/-- A value that is stated is taken, whatever follows that cannot be a part of it. -/
theorem takeRaw_complete : ∀ (fuel : Nat) (rest : List Char) {written : List Char} {raw : Raw},
    StatesRaw written raw → 2 * written.length < fuel → EndsNumeral rest →
      takeRaw fuel (written ++ rest) = some (raw, rest)
  | 0, _, _, _, _, enough, _ => by omega
  | fuel + 1, rest, _, _, states, enough, ends => by
    cases states with
    | null => simp [takeRaw, skipGap, isGap]
    | yes => simp [takeRaw, skipGap, isGap]
    | no => simp [takeRaw, skipGap, isGap]
    | number _ numeral states => exact takeRaw_complete_number states ends fuel
    | string text pieces states =>
      have taken := takePieces_complete states rest
      simp [takeRaw, skipGap_cons (show isGap '"' = false by decide), taken]
    | emptyArray gap blank =>
      have closes : skipGap (gap ++ ']' :: rest) = ']' :: rest := by
        rw [skipGap_append blank, skipGap_cons (by decide)]
      simp [takeRaw, skipGap_cons (show isGap '[' = false by decide), closes]
    | array text items states =>
      simp only [List.length_cons, List.length_append] at enough
      simp only [List.cons_append, List.append_assoc, List.nil_append]
      exact takeRaw_array (states.sight _) (takeItems_complete fuel rest states (by omega))
    | emptyObject gap blank =>
      simp only [List.cons_append, List.append_assoc, List.nil_append]
      exact takeRaw_emptyObject blank fuel rest
    | object text fields states =>
      simp only [List.length_cons, List.length_append] at enough
      simp only [List.cons_append, List.append_assoc, List.nil_append]
      exact takeRaw_object (states.sight _) (takeFields_complete fuel rest states (by omega))

/-- Items that are stated are taken up to the closing bracket. -/
theorem takeItems_complete : ∀ (fuel : Nat) (rest : List Char) {written : List Char}
    {items : List Raw},
    StatesItems written items → 2 * written.length + 1 < fuel →
      takeItems fuel (written ++ ']' :: rest) = some (items, rest)
  | 0, _, _, _, _, enough => by omega
  | fuel + 1, rest, _, _, states, enough => by
    cases states with
    | last before text after item front states back =>
      simp only [List.length_append] at enough
      simp only [List.append_assoc]
      rw [takeItems_append front]
      refine takeItems_last back (takeRaw_complete fuel _ states (by omega) ?_)
      exact endsNumeral_gap back
        (endsNumeral_cons (by decide) (by decide) (by decide) (by decide))
    | more before text after others item items front states back more =>
      simp only [List.length_append, List.length_cons] at enough
      have first := takeRaw_complete fuel (after ++ ',' :: (others ++ ']' :: rest)) states
        (by omega) (endsNumeral_gap back
          (endsNumeral_cons (by decide) (by decide) (by decide) (by decide)))
      have further := takeItems_complete fuel rest more (by omega)
      have comma : skipGap (after ++ ',' :: (others ++ ']' :: rest)) =
          ',' :: (others ++ ']' :: rest) := by
        rw [skipGap_append back, skipGap_cons (by decide)]
      simp only [List.append_assoc, List.cons_append]
      rw [takeItems_append front]
      simp [takeItems, first, comma, further]

/-- Fields that are stated are taken up to the closing brace. -/
theorem takeFields_complete : ∀ (fuel : Nat) (rest : List Char) {written : List Char}
    {fields : List (List Piece × Raw)}, StatesFields written fields →
      2 * written.length + 1 < fuel →
        takeFields fuel (written ++ '\x7d' :: rest) = some (fields, rest)
  | 0, _, _, _, _, enough => by omega
  | fuel + 1, rest, _, _, states, enough => by
    cases states with
    | last before name between gap text after key value front names middle inner states back =>
      simp only [List.length_append, List.length_cons] at enough
      have valueTaken := takeRaw_complete fuel (after ++ '\x7d' :: rest) states (by omega)
        (endsNumeral_gap back
          (endsNumeral_cons (by decide) (by decide) (by decide) (by decide)))
      simp only [List.append_assoc, List.cons_append]
      rw [takeFields_keyed front names middle inner valueTaken, skipGap_append back,
        skipGap_cons (by decide)]
      rfl
    | more before name between gap text after others key value fields front names middle inner states
        back more =>
      simp only [List.length_append, List.length_cons] at enough
      have valueTaken := takeRaw_complete fuel (after ++ ',' :: (others ++ '\x7d' :: rest))
        states (by omega) (endsNumeral_gap back
          (endsNumeral_cons (by decide) (by decide) (by decide) (by decide)))
      have further := takeFields_complete fuel rest more (by omega)
      simp only [List.append_assoc, List.cons_append]
      rw [takeFields_keyed front names middle inner valueTaken, skipGap_append back,
        skipGap_cons (by decide)]
      simp only [further, Option.bind_eq_bind, Option.bind_some]

end

/-- The reader of whole texts finds what they state: its result is the one raw value of which the
text is a document. -/
theorem Raw.parse?_eq_some_iff (text : List Char) (raw : Raw) :
    Raw.parse? text = some raw ↔ IsDocument text raw := by
  constructor
  · intro parsed
    unfold Raw.parse? at parsed
    split at parsed
    next found rest taken =>
      split at parsed
      next ends =>
        obtain rfl := Option.some.inj parsed
        obtain ⟨before, written, rfl, front, states⟩ := takeRaw_sound _ taken
        obtain ⟨after, split, back⟩ := exists_gap rest
        rw [List.isEmpty_iff.mp ends, List.append_nil] at split
        rw [split]
        exact ⟨before, written, after, rfl, front, states, back⟩
      next => cases parsed
    next => cases parsed
  · rintro ⟨before, written, after, rfl, front, states, back⟩
    have closes : EndsNumeral after := by
      have ends := endsNumeral_gap back endsNumeral_nil
      rwa [List.append_nil] at ends
    have taken := takeRaw_complete (readingFuel (before ++ (written ++ after))) after states
      (by simp only [readingFuel, List.length_append]; omega) closes
    have nothing : skipGap after = [] := by
      have skipped := skipGap_append back []
      rwa [List.append_nil] at skipped
    unfold Raw.parse?
    rw [takeRaw_append front, taken]
    simp [nothing]

end DashboardTools.Json
