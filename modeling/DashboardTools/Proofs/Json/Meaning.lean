import DashboardTools.Proofs.Json.Reading
import DashboardTools.Proofs.Json.Objects

/-!
# What JSON means

A raw value denotes at most one value. A numeral without fraction and exponent is an integer,
exactly, as long as that has 64 bits and the numeral is no negative zero; every other numeral is a
floating point number, if it is in range. Escaped units spell characters alone or as pairs, an
object keeps the last field with each key, and everything else denotes what it looks like. Reading
finds what is denoted, up to a depth of nesting.
-/

namespace DashboardTools.Json

open DashboardTools.Decimal

/-- Pieces spell a text: each character itself, each unit that is no surrogate its character, and
each pair of surrogates one character. -/
inductive Spells : List Piece → List Char → Prop where
  | nothing : Spells [] []
  | char (c : Char) (pieces : List Piece) (text : List Char) (rest : Spells pieces text) :
    Spells (.char c :: pieces) (c :: text)
  | unit (unit : Nat) (pieces : List Piece) (text : List Char) (alone : unit < 0xD800 ∨ 0xDFFF < unit)
    (rest : Spells pieces text) : Spells (.escaped unit :: pieces) (Char.ofNat unit :: text)
  | pair (high low : Nat) (pieces : List Piece) (text : List Char)
    (isHigh : 0xD800 ≤ high ∧ high < 0xDC00) (isLow : 0xDC00 ≤ low ∧ low ≤ 0xDFFF)
    (rest : Spells pieces text) :
    Spells (.escaped high :: .escaped low :: pieces)
      (Char.ofNat (0x10000 + (high - 0xD800) * 0x400 + (low - 0xDC00)) :: text)

/-- An integer has 64 bits, with or without a sign. -/
def FitsWord (n : Int) : Prop := -(Nat.pow 2 63 : Int) ≤ n ∧ n < (Nat.pow 2 64 : Int)

/-- A numeral stands for an integer: it has no fraction and no exponent, the integer has 64 bits
with or without a sign, and the numeral is not a zero after a minus. -/
structure IsInteger (numeral : Numeral) (n : Int) : Prop where
  noFraction : numeral.fraction = []
  noExponent : numeral.exponent? = none
  value : n = if numeral.negative then -(digitsValue numeral.whole : Int) else digitsValue numeral.whole
  inRange : FitsWord n
  noNegativeZero : numeral.negative = true → n ≠ 0

mutual

/-- A raw value denotes a value. A numeral that is no integer of a word denotes a float, if it is in
the range of floats. -/
inductive Denotes : Raw → Value → Prop where
  | null : Denotes .null .null
  | bool (value : Bool) : Denotes (.bool value) (.bool value)
  | integer (numeral : Numeral) (n : Int) (isInteger : IsInteger numeral n) :
    Denotes (.number numeral) (.int n)
  | float (numeral : Numeral) (x : Float) (noInteger : ∀ n, ¬ IsInteger numeral n)
    (inRange : numeral.float? = some x) : Denotes (.number numeral) (.float x)
  | string (pieces : List Piece) (text : String) (spells : Spells pieces text.toList) :
    Denotes (.string pieces) (.string text)
  | array (items : List Raw) (values : List Value) (itemwise : ItemsDenote items values) :
    Denotes (.array items) (.array values)
  | object (fields : List (List Piece × Raw)) (read kept : List (String × Value))
    (fieldwise : FieldsDenote fields read) (map : IsMapOf read kept) :
    Denotes (.object fields) (.object kept)

/-- The items of an array denote values, item by item and in their order. -/
inductive ItemsDenote : List Raw → List Value → Prop where
  | nothing : ItemsDenote [] []
  | more (item : Raw) (items : List Raw) (value : Value) (values : List Value)
    (first : Denotes item value) (rest : ItemsDenote items values) :
    ItemsDenote (item :: items) (value :: values)

/-- The fields of an object denote fields, each with the text of its key. -/
inductive FieldsDenote : List (List Piece × Raw) → List (String × Value) → Prop where
  | nothing : FieldsDenote [] []
  | more (pieces : List Piece) (item : Raw) (fields : List (List Piece × Raw)) (key : String)
    (value : Value) (read : List (String × Value)) (spells : Spells pieces key.toList)
    (first : Denotes item value) (rest : FieldsDenote fields read) :
    FieldsDenote ((pieces, item) :: fields) ((key, value) :: read)

end

mutual

/-- How deep arrays and objects nest. A value that is neither has no depth. -/
def Raw.nesting : Raw → Nat
  | .array items => nestingOfItems items + 1
  | .object fields => nestingOfFields fields + 1
  | _ => 0

/-- How deep the items of an array nest, which is as deep as the deepest of them does. -/
def nestingOfItems : List Raw → Nat
  | [] => 0
  | item :: items => max item.nesting (nestingOfItems items)

/-- How deep the fields of an object nest, which is as deep as the deepest of their values does. -/
def nestingOfFields : List (List Piece × Raw) → Nat
  | [] => 0
  | (_, item) :: fields => max item.nesting (nestingOfFields fields)

end

/-- Pieces join to a text exactly when they spell it. Halves of a surrogate pair that do not meet
spell nothing. -/
theorem joinPieces?_eq_some_iff (pieces : List Piece) (text : List Char) :
    joinPieces? pieces = some text ↔ Spells pieces text := by
  constructor
  · intro joins
    induction pieces using joinPieces?.induct generalizing text with
    | case1 =>
      obtain rfl := Option.some.inj joins
      exact .nothing
    | case2 c pieces inductionHypothesis =>
      rw [joinPieces?, Option.map_eq_some_iff] at joins
      obtain ⟨rest, joins, rfl⟩ := joins
      exact .char c pieces rest (inductionHypothesis rest joins)
    | case3 high low pieces alone inductionHypothesis =>
      rw [joinPieces?, if_pos alone, Option.map_eq_some_iff] at joins
      obtain ⟨rest, joins, rfl⟩ := joins
      exact .unit high _ rest alone (inductionHypothesis rest joins)
    | case4 high low pieces notAlone pair inductionHypothesis =>
      rw [joinPieces?, if_neg notAlone, if_pos pair, Option.map_eq_some_iff] at joins
      obtain ⟨rest, joins, rfl⟩ := joins
      refine .pair high low pieces rest ⟨?_, pair.1⟩ pair.2 (inductionHypothesis rest joins)
      omega
    | case5 high low pieces notAlone noPair =>
      rw [joinPieces?, if_neg notAlone, if_neg noPair] at joins
      cases joins
    | case6 unit pieces noLow alone inductionHypothesis =>
      rw [joinPieces?.eq_4 _ _ noLow, if_pos alone, Option.map_eq_some_iff] at joins
      obtain ⟨rest, joins, rfl⟩ := joins
      exact .unit unit pieces rest alone (inductionHypothesis rest joins)
    | case7 unit pieces noLow notAlone =>
      rw [joinPieces?.eq_4 _ _ noLow, if_neg notAlone] at joins
      cases joins
  · intro spells
    induction spells with
    | nothing => rfl
    | char c pieces text _ inductionHypothesis => rw [joinPieces?, inductionHypothesis]; rfl
    | unit unit pieces text alone _ inductionHypothesis =>
      cases pieces with
      | nil => rw [joinPieces?.eq_4 _ _ (by simp), if_pos alone, inductionHypothesis]; rfl
      | cons piece pieces =>
        cases piece with
        | char c => rw [joinPieces?.eq_4 _ _ (by simp), if_pos alone, inductionHypothesis]; rfl
        | escaped low => rw [joinPieces?, if_pos alone, inductionHypothesis]; rfl
    | pair high low pieces text isHigh isLow _ inductionHypothesis =>
      rw [joinPieces?, if_neg (by omega), if_pos ⟨isHigh.2, isLow⟩, inductionHypothesis]
      rfl

/-- A string's pieces are read as a text exactly when they spell that text. -/
theorem textOfPieces?_eq_some_iff (pieces : List Piece) (text : String) :
    textOfPieces? pieces = some text ↔ Spells pieces text.toList := by
  rw [← joinPieces?_eq_some_iff, textOfPieces?, Option.map_eq_some_iff]
  constructor
  · rintro ⟨characters, joins, rfl⟩
    rw [joins, String.toList_ofList]
  · intro joins
    exact ⟨text.toList, joins, String.ofList_toList⟩

/-- A numeral is read as an integer exactly when it states that integer and the integer fits in a
word. -/
theorem number?_eq_int_iff (numeral : Numeral) (n : Int) :
    numeral.number? = some (.int n) ↔ IsInteger numeral n := by
  obtain ⟨negative, whole, fraction, exponent?⟩ := numeral
  have limit : Nat.pow 2 64 = 18446744073709551616 ∧ Nat.pow 2 63 = 9223372036854775808 := by
    decide
  constructor
  · intro states
    unfold Numeral.number? at states
    dsimp only at states
    split at states
    next unsigned =>
      simp only [Bool.and_eq_true, decide_eq_true_eq, List.isEmpty_iff, Option.isNone_iff_eq_none,
        Bool.not_eq_true'] at unsigned
      obtain ⟨⟨⟨noFraction, noExponent⟩, positive⟩, small⟩ := unsigned
      obtain rfl := Number.int.inj (Option.some.inj states)
      refine ⟨noFraction, noExponent, ?_, ?_, ?_⟩
      · simp [positive]
      · unfold FitsWord
        omega
      · simp [positive]
    next =>
      split at states
      next signed =>
        simp only [Bool.and_eq_true, decide_eq_true_eq, List.isEmpty_iff,
          Option.isNone_iff_eq_none] at signed
        obtain ⟨⟨⟨noFraction, noExponent⟩, sign⟩, nonzero, small⟩ := signed
        obtain rfl := Number.int.inj (Option.some.inj states)
        refine ⟨noFraction, noExponent, ?_, ?_, ?_⟩
        · simp [sign]
        · unfold FitsWord
          omega
        · intro _
          omega
      next =>
        obtain ⟨x, _, impossible⟩ := Option.map_eq_some_iff.mp states
        cases impossible
  · rintro ⟨noFraction, noExponent, value, inRange, noNegativeZero⟩
    dsimp only at noFraction noExponent value noNegativeZero
    unfold FitsWord at inRange
    unfold Numeral.number?
    cases negative with
    | false =>
      simp only [Bool.false_eq_true, if_false] at value
      have small : digitsValue whole < Nat.pow 2 64 := by omega
      simp [noFraction, noExponent, small, value]
    | true =>
      simp only [if_true] at value
      have nonzero := noNegativeZero rfl
      have small : 0 < digitsValue whole ∧ digitsValue whole ≤ Nat.pow 2 63 := by omega
      simp [noFraction, noExponent, small, value]

/-- A numeral is read as a float exactly when it states no integer that fits and its value is a
finite float. -/
theorem number?_eq_float_iff (numeral : Numeral) (x : Float) :
    numeral.number? = some (.float x) ↔
      (∀ n, ¬ IsInteger numeral n) ∧ numeral.float? = some x := by
  constructor
  · intro states
    constructor
    · intro n isInteger
      rw [(number?_eq_int_iff numeral n).mpr isInteger] at states
      cases Option.some.inj states
    · unfold Numeral.number? at states
      dsimp only at states
      split at states
      · cases Option.some.inj states
      · split at states
        · cases Option.some.inj states
        · obtain ⟨y, found, same⟩ := Option.map_eq_some_iff.mp states
          rw [found, Number.float.inj same]
  · rintro ⟨noInteger, inRange⟩
    unfold Numeral.number?
    dsimp only
    split
    next unsigned =>
      refine absurd ((number?_eq_int_iff numeral _).mp ?_) (noInteger (digitsValue numeral.whole))
      unfold Numeral.number?
      exact if_pos unsigned
    next notUnsigned =>
      split
      next signed =>
        refine absurd ((number?_eq_int_iff numeral _).mp ?_)
          (noInteger (-(digitsValue numeral.whole : Int)))
        unfold Numeral.number?
        exact (if_neg notUnsigned).trans (if_pos signed)
      next => rw [inRange, Option.map_some]

mutual

/-- What is read of a raw value is what it denotes, as long as it does not nest too deep. -/
theorem ofRaw?_eq_some_iff : ∀ (raw : Raw) (depth : Nat) (value : Value),
    Value.ofRaw? depth raw = some value ↔ raw.nesting ≤ depth ∧ Denotes raw value
  | .null, depth, value => by
    rw [Value.ofRaw?]
    constructor
    · rintro ⟨⟩
      exact ⟨Nat.zero_le _, .null⟩
    · rintro ⟨_, ⟨⟩⟩
      rfl
  | .bool b, depth, value => by
    rw [Value.ofRaw?]
    constructor
    · rintro ⟨⟩
      exact ⟨Nat.zero_le _, .bool b⟩
    · rintro ⟨_, ⟨⟩⟩
      rfl
  | .number numeral, depth, value => by
    rw [Value.ofRaw?, Option.map_eq_some_iff]
    constructor
    · rintro ⟨number, states, rfl⟩
      refine ⟨Nat.zero_le _, ?_⟩
      cases number with
      | int n => exact .integer numeral n ((number?_eq_int_iff numeral n).mp states)
      | float x =>
        obtain ⟨noInteger, inRange⟩ := (number?_eq_float_iff numeral x).mp states
        exact .float numeral x noInteger inRange
    · rintro ⟨_, denotes⟩
      cases denotes with
      | integer _ n isInteger =>
        exact ⟨.int n, (number?_eq_int_iff numeral n).mpr isInteger, rfl⟩
      | float _ x noInteger inRange =>
        exact ⟨.float x, (number?_eq_float_iff numeral x).mpr ⟨noInteger, inRange⟩, rfl⟩
  | .string pieces, depth, value => by
    rw [Value.ofRaw?, Option.map_eq_some_iff]
    constructor
    · rintro ⟨text, spelled, rfl⟩
      exact ⟨Nat.zero_le _, .string pieces text ((textOfPieces?_eq_some_iff pieces text).mp spelled)⟩
    · rintro ⟨_, denotes⟩
      cases denotes with
      | string _ text spells =>
        exact ⟨text, (textOfPieces?_eq_some_iff pieces text).mpr spells, rfl⟩
  | .array items, 0, value => by
    simp [Value.ofRaw?, Raw.nesting]
  | .array items, depth + 1, value => by
    rw [Value.ofRaw?, Option.map_eq_some_iff, Raw.nesting]
    constructor
    · rintro ⟨values, found, rfl⟩
      obtain ⟨nests, itemwise⟩ := (ofItems?_eq_some_iff items depth values).mp found
      exact ⟨Nat.succ_le_succ nests, .array items values itemwise⟩
    · rintro ⟨nests, denotes⟩
      cases denotes with
      | array _ values itemwise =>
        have found := (ofItems?_eq_some_iff items depth values).mpr
          ⟨Nat.le_of_succ_le_succ nests, itemwise⟩
        exact ⟨values, found, rfl⟩
  | .object fields, 0, value => by
    simp [Value.ofRaw?, Raw.nesting]
  | .object fields, depth + 1, value => by
    rw [Value.ofRaw?, Option.map_eq_some_iff, Raw.nesting]
    constructor
    · rintro ⟨read, found, rfl⟩
      obtain ⟨nests, fieldwise⟩ := (ofFields?_eq_some_iff fields depth read).mp found
      exact ⟨Nat.succ_le_succ nests, .object fields read _ fieldwise (isMapOf_iff.mpr rfl)⟩
    · rintro ⟨nests, denotes⟩
      cases denotes with
      | object _ read kept fieldwise map =>
        have found := (ofFields?_eq_some_iff fields depth read).mpr
          ⟨Nat.le_of_succ_le_succ nests, fieldwise⟩
        exact ⟨read, found, by rw [isMapOf_iff.mp map]⟩

/-- Items are read within a depth exactly when they nest no deeper and each denotes its value. -/
theorem ofItems?_eq_some_iff : ∀ (items : List Raw) (depth : Nat) (values : List Value),
    Value.ofItems? depth items = some values ↔
      nestingOfItems items ≤ depth ∧ ItemsDenote items values
  | [], depth, values => by
    rw [Value.ofItems?]
    constructor
    · rintro ⟨⟩
      exact ⟨Nat.zero_le _, .nothing⟩
    · rintro ⟨_, ⟨⟩⟩
      rfl
  | item :: items, depth, values => by
    simp only [Value.ofItems?, nestingOfItems, Option.bind_eq_bind, Option.bind_eq_some_iff,
      Nat.max_le]
    constructor
    · rintro ⟨value, first, others, rest, ⟨⟩⟩
      obtain ⟨nests, denotes⟩ := (ofRaw?_eq_some_iff item depth value).mp first
      obtain ⟨restNests, itemwise⟩ := (ofItems?_eq_some_iff items depth others).mp rest
      exact ⟨⟨nests, restNests⟩, .more item items value others denotes itemwise⟩
    · rintro ⟨⟨nests, restNests⟩, denote⟩
      cases denote with
      | more _ _ value others denotes itemwise =>
        exact ⟨value, (ofRaw?_eq_some_iff item depth value).mpr ⟨nests, denotes⟩, others,
          (ofItems?_eq_some_iff items depth others).mpr ⟨restNests, itemwise⟩, rfl⟩

/-- Fields are read within a depth exactly when they nest no deeper and each denotes its key and
value. -/
theorem ofFields?_eq_some_iff : ∀ (fields : List (List Piece × Raw)) (depth : Nat)
    (read : List (String × Value)), Value.ofFields? depth fields = some read ↔
      nestingOfFields fields ≤ depth ∧ FieldsDenote fields read
  | [], depth, read => by
    rw [Value.ofFields?]
    constructor
    · rintro ⟨⟩
      exact ⟨Nat.zero_le _, .nothing⟩
    · rintro ⟨_, ⟨⟩⟩
      rfl
  | (pieces, item) :: fields, depth, read => by
    simp only [Value.ofFields?, nestingOfFields, Option.bind_eq_bind, Option.bind_eq_some_iff,
      Nat.max_le]
    constructor
    · rintro ⟨key, spelled, value, first, others, rest, ⟨⟩⟩
      have spells := (textOfPieces?_eq_some_iff pieces key).mp spelled
      obtain ⟨nests, denotes⟩ := (ofRaw?_eq_some_iff item depth value).mp first
      obtain ⟨restNests, fieldwise⟩ := (ofFields?_eq_some_iff fields depth others).mp rest
      exact ⟨⟨nests, restNests⟩, .more pieces item fields key value others spells denotes fieldwise⟩
    · rintro ⟨⟨nests, restNests⟩, denote⟩
      cases denote with
      | more _ _ _ key value others spells denotes fieldwise =>
        exact ⟨key, (textOfPieces?_eq_some_iff pieces key).mpr spells, value,
          (ofRaw?_eq_some_iff item depth value).mpr ⟨nests, denotes⟩, others,
          (ofFields?_eq_some_iff fields depth others).mpr ⟨restNests, fieldwise⟩, rfl⟩

end

/-- A text consists of a value: it states a raw value that does not nest too deep and denotes it. -/
theorem parse?_eq_some_iff (text : String) (value : Value) :
    Value.parse? text = some value ↔
      ∃ raw, IsDocument text.toList raw ∧ raw.nesting ≤ nestingLimit ∧ Denotes raw value := by
  rw [Value.parse?, Option.bind_eq_some_iff]
  constructor
  · rintro ⟨raw, states, read⟩
    exact ⟨raw, (Raw.parse?_eq_some_iff _ raw).mp states, (ofRaw?_eq_some_iff raw _ value).mp read⟩
  · rintro ⟨raw, states, denotes⟩
    exact ⟨raw, (Raw.parse?_eq_some_iff _ raw).mpr states,
      (ofRaw?_eq_some_iff raw _ value).mpr denotes⟩

end DashboardTools.Json
