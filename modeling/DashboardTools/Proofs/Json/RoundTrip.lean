import DashboardTools.Proofs.Json.Meaning

/-!
# Values that were read are written and read again

A value that was read is regular: its integers have 64 bits and its objects have rising keys. The
raw value that is read from its text, in either style, denotes the value itself and nests no deeper,
as long as the number codec reads back the floating point numbers in it. So the text is read as that
value.
-/

namespace DashboardTools.Json

open DashboardTools.Decimal

mutual

/-- Integers have 64 bits, with or without a sign, and the keys of objects rise. -/
def Value.IsRegular : Value → Prop
  | .int n => FitsWord n
  | .array items => AreRegular items
  | .object fields => RisingKeys fields ∧ HaveRegularValues fields
  | _ => True

/-- All items of an array are regular, item by item. -/
def AreRegular : List Value → Prop
  | [] => True
  | item :: items => item.IsRegular ∧ AreRegular items

/-- All fields of an object have regular values, whatever their keys are. -/
def HaveRegularValues : List (String × Value) → Prop
  | [] => True
  | (_, value) :: fields => value.IsRegular ∧ HaveRegularValues fields

end

mutual

/-- The floating point numbers in a value, at any depth and in their order. -/
def Value.floats : Value → List Float
  | .float x => [x]
  | .array items => floatsOfItems items
  | .object fields => floatsOfFields fields
  | _ => []

/-- The floating point numbers in the items of an array. -/
def floatsOfItems : List Value → List Float
  | [] => []
  | item :: items => item.floats ++ floatsOfItems items

/-- The floating point numbers in the fields of an object. -/
def floatsOfFields : List (String × Value) → List Float
  | [] => []
  | (_, value) :: fields => value.floats ++ floatsOfFields fields

end

/-- The number codec reads back every floating point number in a value. -/
def Value.FloatsReadBack (value : Value) : Prop := ∀ x ∈ value.floats, ReadsBack x

/-- Fields have regular values exactly when the value of each field is regular. -/
theorem haveRegularValues_iff (fields : List (String × Value)) :
    HaveRegularValues fields ↔ ∀ field ∈ fields, field.2.IsRegular := by
  induction fields with
  | nil => simp [HaveRegularValues]
  | cons field fields inductionHypothesis =>
    rw [List.forall_mem_cons, ← inductionHypothesis]
    rfl

/-- The floats of fields are the floats of their values. -/
theorem mem_floatsOfFields {fields : List (String × Value)} {x : Float} :
    x ∈ floatsOfFields fields ↔ ∃ field ∈ fields, x ∈ field.2.floats := by
  induction fields with
  | nil => simp [floatsOfFields]
  | cons field fields inductionHypothesis =>
    simp only [floatsOfFields, List.mem_append, inductionHypothesis, List.mem_cons,
      exists_eq_or_imp]

/-- Written fields nest within a depth exactly when the value of each field does. -/
theorem nestingOfFields_rawFields_le (fields : List (String × Value)) (depth : Nat) :
    nestingOfFields (rawFields fields) ≤ depth ↔ ∀ field ∈ fields, field.2.raw.nesting ≤ depth := by
  induction fields with
  | nil => simp [rawFields, nestingOfFields]
  | cons field fields inductionHypothesis =>
    simp only [rawFields, nestingOfFields, Nat.max_le, inductionHypothesis, List.forall_mem_cons]

mutual

/-- What is denoted is regular: integers that fit in a word, and objects whose keys rise. The
induction is on what denotes. -/
theorem Denotes.isRegular : ∀ {raw : Raw} {value : Value}, Denotes raw value → value.IsRegular
  | _, _, .null => trivial
  | _, _, .bool _ => trivial
  | _, _, .integer _ _ isInteger => isInteger.inRange
  | _, _, .float _ _ _ _ => trivial
  | _, _, .string _ _ _ => trivial
  | _, _, .array _ _ itemwise => itemwise.areRegular
  | _, _, .object _ _ kept fieldwise map => by
    refine ⟨map.rising, (haveRegularValues_iff kept).mpr ?_⟩
    intro field member
    exact (haveRegularValues_iff _).mp fieldwise.haveRegularValues field (map.mem member)

/-- Values that items denote are regular, since reading builds every object with rising keys. -/
theorem ItemsDenote.areRegular : ∀ {items : List Raw} {values : List Value},
    ItemsDenote items values → AreRegular values
  | _, _, .nothing => trivial
  | _, _, .more _ _ _ _ first rest => ⟨first.isRegular, rest.areRegular⟩

/-- Values that fields denote are regular, since reading builds every object with rising keys. -/
theorem FieldsDenote.haveRegularValues : ∀ {fields : List (List Piece × Raw)}
    {read : List (String × Value)}, FieldsDenote fields read → HaveRegularValues read
  | _, _, .nothing => trivial
  | _, _, .more _ _ _ _ _ _ _ first rest => ⟨first.isRegular, rest.haveRegularValues⟩

end

mutual

/-- What is denoted is written no deeper nested than it was stated. -/
theorem Denotes.nesting_raw : ∀ {raw : Raw} {value : Value}, Denotes raw value →
    value.raw.nesting ≤ raw.nesting
  | _, _, .null => Nat.le_refl _
  | _, _, .bool _ => Nat.le_refl _
  | _, _, .integer _ _ _ => Nat.le_refl _
  | _, _, .float _ x _ _ => by
    rw [Value.raw]
    cases floatNumeral? x <;> exact Nat.le_refl _
  | _, _, .string _ _ _ => Nat.le_refl _
  | _, _, .array _ _ itemwise => Nat.succ_le_succ itemwise.nesting_raw
  | _, _, .object _ _ kept fieldwise map => by
    apply Nat.succ_le_succ
    rw [nestingOfFields_rawFields_le]
    intro field member
    exact (nestingOfFields_rawFields_le _ _).mp fieldwise.nesting_raw field (map.mem member)

/-- Written out again, the values that items denote nest no deeper than the items did. Only a
repeated key can make the nesting smaller. -/
theorem ItemsDenote.nesting_raw : ∀ {items : List Raw} {values : List Value},
    ItemsDenote items values → nestingOfItems (rawItems values) ≤ nestingOfItems items
  | _, _, .nothing => Nat.le_refl _
  | _, _, .more _ _ _ _ first rest => by
    simp only [rawItems, nestingOfItems]
    have one := first.nesting_raw
    have others := rest.nesting_raw
    omega

/-- Written out again, the values that fields denote nest no deeper than the fields did. -/
theorem FieldsDenote.nesting_raw : ∀ {fields : List (List Piece × Raw)}
    {read : List (String × Value)}, FieldsDenote fields read →
      nestingOfFields (rawFields read) ≤ nestingOfFields fields
  | _, _, .nothing => Nat.le_refl _
  | _, _, .more _ _ _ _ _ _ _ first rest => by
    simp only [rawFields, nestingOfFields]
    have one := first.nesting_raw
    have others := rest.nesting_raw
    omega

end

/-- The digits of a text have the value that the text has when it is read as a decimal number. -/
theorem digitsValue_digitsOf (text : List Char) :
    digitsValue (digitsOf text) = Nat.ofDigitChars 10 text 0 := by
  unfold digitsValue digitsOf Nat.ofDigitChars
  rw [List.foldl_map]
  congr 1
  funext value c
  rw [Nat.mul_comm]

/-- The digits of a number have its value, so a number that is written is read as itself. -/
theorem digitsValue_natText (n : Nat) : digitsValue (digitsOf (natText n)) = n := by
  rw [digitsValue_digitsOf, natText, Nat.ofDigitChars_toDigits (by decide) (by decide)]

/-- The numeral written for an integer that fits in a word states that integer. -/
theorem intWritten_isInteger {n : Int} (inRange : FitsWord n) :
    IsInteger (intWritten n).numeral n where
  noFraction := rfl
  noExponent := rfl
  value := by
    simp only [intWritten, NumeralText.numeral, digitsValue_natText, decide_eq_true_eq]
    split <;> omega
  inRange := inRange
  noNegativeZero negative := by
    have below : n < 0 := of_decide_eq_true negative
    omega

/-- A natural number of 64 bits is found in what is written for it. -/
theorem natural?_raw {n : Nat} (word : n < Nat.pow 2 64) : (Value.int n).raw.natural? = some n := by
  have fits : FitsWord n := by
    unfold FitsWord
    omega
  have read := (number?_eq_int_iff _ _).mpr (intWritten_isInteger fits)
  simp [Value.raw, Raw.natural?, read]

/-- A floating point number is written with a point or an exponent. -/
theorem Scaled.text_marked (number : Scaled) : '.' ∈ number.text ∨ 'e' ∈ number.text := by
  unfold Scaled.text
  extract_lets digits point head tail
  split
  · right
    simp
  split
  · left
    simp
  split
  · left
    simp
  · left
    simp

/-- The text of a float has a point or an exponent mark, so it is never read as an integer. -/
theorem floatText?_marked {x : Float} {text : List Char} (writes : floatText? x = some text) :
    '.' ∈ text ∨ 'e' ∈ text := by
  unfold floatText? at writes
  extract_lets bits sign exponent fraction at writes
  split at writes
  · cases writes
  split at writes
  · obtain rfl := Option.some.inj writes
    left
    simp
  · obtain rfl := Option.some.inj writes
    exact (Scaled.text_marked _).imp (List.mem_append_right _) (List.mem_append_right _)

/-- A numeral with neither point nor exponent is written with a sign and digits alone. -/
theorem digit_of_mem_text {written : NumeralText} (noFraction : written.numeral.fraction = [])
    (noExponent : written.numeral.exponent? = none) {c : Char} (member : c ∈ written.text) :
    c = '-' ∨ c.isDigit = true := by
  obtain ⟨negative, whole, fraction, exponent?, isWhole, _, _⟩ := written
  obtain rfl : fraction = [] := List.map_eq_nil_iff.mp noFraction
  obtain rfl : exponent? = none := Option.map_eq_none_iff.mp noExponent
  simp only [NumeralText.text, NumeralText.fractionText, NumeralText.exponentText,
    List.isEmpty_nil, if_true, List.append_nil, List.mem_append] at member
  rcases member with sign | digit
  · cases negative with
    | true => exact .inl (List.mem_singleton.mp sign)
    | false => cases sign
  · exact .inr (isWhole.digits c digit)

/-- A floating point number that is read back is written as a numeral that denotes it. -/
theorem denotes_float {x : Float} (readsBack : ReadsBack x) :
    Denotes (Value.float x).raw (.float x) := by
  have read := float?_raw readsBack
  cases writes : floatText? x with
  | none => simp [ReadsBack, writes] at readsBack
  | some text =>
    obtain ⟨written, rfl, numeral⟩ := floatText?_numeral writes
    have noInteger : ∀ n, ¬ IsInteger written.numeral n := by
      intro n isInteger
      rcases floatText?_marked writes with marked | marked
      · have plain := digit_of_mem_text isInteger.noFraction isInteger.noExponent marked
        exact absurd plain (by decide)
      · have plain := digit_of_mem_text isInteger.noFraction isInteger.noExponent marked
        exact absurd plain (by decide)
    rw [Value.raw, numeral, Option.elim_some] at read ⊢
    apply Denotes.float _ _ noInteger
    unfold Raw.float? at read
    dsimp only at read
    split at read
    next n found => exact absurd ((number?_eq_int_iff _ _).mp found) (noInteger n)
    next y found =>
      obtain rfl := Option.some.inj read
      exact ((number?_eq_float_iff _ _).mp found).2
    next => cases read

/-- A text is found in what is written for it. -/
theorem text?_raw (text : String) : (Value.string text).raw.text? = some text :=
  textOfPieces?_piecesOf text

/-- The pieces written for a text spell that text, with control characters escaped. -/
theorem spells_piecesOf (text : String) : Spells (piecesOf text.toList) text.toList :=
  (joinPieces?_eq_some_iff _ _).mp (joinPieces?_piecesOf _)

mutual

/-- The raw value that a regular value is written as denotes that value. -/
theorem denotes_raw : ∀ {value : Value}, value.IsRegular → value.FloatsReadBack →
    Denotes value.raw value
  | .null, _, _ => .null
  | .bool b, _, _ => .bool b
  | .int n, inRange, _ => .integer _ n (intWritten_isInteger inRange)
  | .float x, _, readBack => denotes_float (readBack x (by simp [Value.floats]))
  | .string text, _, _ => .string _ text (spells_piecesOf text)
  | .array items, regular, readBack =>
    .array _ items (itemsDenote_raw regular readBack)
  | .object fields, ⟨rising, regular⟩, readBack =>
    .object _ fields fields (fieldsDenote_raw regular readBack) rising.isMapOf

/-- Regular items whose floats read back are denoted by what is written for them. -/
theorem itemsDenote_raw : ∀ {items : List Value}, AreRegular items →
    (∀ x ∈ floatsOfItems items, ReadsBack x) → ItemsDenote (rawItems items) items
  | [], _, _ => .nothing
  | item :: items, ⟨regular, others⟩, readBack => by
    simp only [floatsOfItems, List.forall_mem_append] at readBack
    exact .more _ _ item items (denotes_raw regular readBack.1) (itemsDenote_raw others readBack.2)

/-- Fields with regular values whose floats read back are denoted by what is written for them. -/
theorem fieldsDenote_raw : ∀ {fields : List (String × Value)}, HaveRegularValues fields →
    (∀ x ∈ floatsOfFields fields, ReadsBack x) → FieldsDenote (rawFields fields) fields
  | [], _, _ => .nothing
  | (key, value) :: fields, ⟨regular, others⟩, readBack => by
    simp only [floatsOfFields, List.forall_mem_append] at readBack
    exact .more _ _ _ key value fields (spells_piecesOf key) (denotes_raw regular readBack.1)
      (fieldsDenote_raw others readBack.2)

end

/-- The text of a regular value, in either style, is read as that value. -/
theorem parse?_write_value (style : Style) {value : Value} (regular : value.IsRegular)
    (readBack : value.FloatsReadBack) (nests : value.raw.nesting ≤ nestingLimit) :
    Value.parse? (.ofList (write style 0 value)) = some value := by
  rw [Value.parse?, String.toList_ofList, parse?_write, Option.bind_some]
  exact (ofRaw?_eq_some_iff _ _ _).mpr ⟨nests, denotes_raw regular readBack⟩

/-- Putting a regular value into a regular object gives a regular object. -/
theorem isRegular_putField {fields : List (String × Value)} {value : Value} (key : String)
    (regular : (Value.object fields).IsRegular) (plain : value.IsRegular) :
    (Value.object (putField key value fields)).IsRegular := by
  refine ⟨regular.1.putField key value, (haveRegularValues_iff _).mpr ?_⟩
  intro field member
  rcases mem_putField member with rfl | before
  · exact plain
  · exact (haveRegularValues_iff fields).mp regular.2 field before

/-- Putting a value into an object keeps all floats readable when those of the value and of the
object are. -/
theorem floatsReadBack_putField {fields : List (String × Value)} {value : Value} (key : String)
    (readBack : (Value.object fields).FloatsReadBack) (plain : value.FloatsReadBack) :
    (Value.object (putField key value fields)).FloatsReadBack := by
  intro x member
  obtain ⟨field, there, held⟩ := mem_floatsOfFields.mp member
  rcases mem_putField there with rfl | before
  · exact plain x held
  · exact readBack x (mem_floatsOfFields.mpr ⟨field, before, held⟩)

/-- Putting a value into an object keeps the depth when the value itself fits one level below. -/
theorem nesting_putField {fields : List (String × Value)} {value : Value} (key : String) {depth : Nat}
    (nests : (Value.object fields).raw.nesting ≤ depth + 1) (plain : value.raw.nesting ≤ depth) :
    (Value.object (putField key value fields)).raw.nesting ≤ depth + 1 := by
  apply Nat.succ_le_succ
  rw [nestingOfFields_rawFields_le]
  intro field member
  rcases mem_putField member with rfl | before
  · exact plain
  · exact (nestingOfFields_rawFields_le fields depth).mp (Nat.le_of_succ_le_succ nests) field before

end DashboardTools.Json
