import DashboardTools.Json.Record
import DashboardTools.Proofs.Json.Grammar
import DashboardTools.Proofs.Json.Strings

/-!
# Values that are written are read

The text of a value, in either style, states the raw value that the writer had in mind: the numerals
and pieces that were written, and the items and fields in their order. So that raw value is what a
reader of the text finds.
-/

namespace DashboardTools.Json

open DashboardTools.Decimal

/-- The numeral that a floating point number is written as; `none` when it is not finite. -/
def floatNumeral? (x : Float) : Option Numeral :=
  (floatText? x).bind fun text => (takeNumeral? text).map (·.1)

mutual

/-- The raw value that is read from a value's text. -/
def Value.raw : Value → Raw
  | .null => .null
  | .bool b => .bool b
  | .int n => .number (intWritten n).numeral
  | .float x => (floatNumeral? x).elim .null .number
  | .string text => .string (piecesOf text.toList)
  | .array items => .array (rawItems items)
  | .object fields => .object (rawFields fields)

/-- The raw values that are read from an array's text. -/
def rawItems : List Value → List Raw
  | [] => []
  | item :: items => item.raw :: rawItems items

/-- The raw fields that are read from an object's text. -/
def rawFields : List (String × Value) → List (List Piece × Raw)
  | [] => []
  | (key, value) :: fields => (piecesOf key.toList, value.raw) :: rawFields fields

end

/-- What the parts of a numeral put together spell states that numeral. -/
theorem NumeralText.states (written : NumeralText) :
    StatesNumeral written.text written.numeral := by
  obtain ⟨negative, whole, fraction, exponent?, isWhole, fractionDigits, exponentDigits⟩ := written
  have states : StatesFraction (fractionText fraction) (digitsOf fraction) := by
    cases fraction with
    | nil => exact .nothing
    | cons c fraction => exact .point _ ⟨List.cons_ne_nil _ _, fractionDigits⟩
  refine .parts negative whole _ _ _ _ isWhole states ?_
  match exponent? with
  | none => exact .nothing
  | some (negative, digits) =>
    have isWhole := exponentDigits negative digits rfl
    have isDigits : IsDigits digits := ⟨isWhole.filled, isWhole.digits⟩
    cases negative with
    | true => exact .mark 'e' ['-'] digits true (.inl rfl) .minus isDigits
    | false => exact .mark 'e' ['+'] digits false (.inl rfl) .plus isDigits

/-- The text that is written for a float is a numeral, and reading that numeral gives the numeral
the float stands for. -/
theorem floatText?_numeral {x : Float} {text : List Char} (writes : floatText? x = some text) :
    ∃ written : NumeralText, written.text = text ∧ floatNumeral? x = some written.numeral := by
  obtain ⟨written, rfl⟩ := floatText?_written writes
  have taken := takeNumeral?_complete written.states endsNumeral_nil
  rw [List.append_nil] at taken
  exact ⟨written, rfl, by simp [floatNumeral?, writes, taken]⟩

/-- One character is written as one piece, whether it is escaped or not. -/
theorem statesPiece_escapeChar (c : Char) : StatesPiece (escapeChar c) (pieceOf c) := by
  have lettered (letter : Char) (stands : letterEscape? letter = some c)
      (piece : pieceOf c = .char c) : StatesPiece ['\\', letter] (pieceOf c) := by
    rw [piece]
    exact .letter letter c stands
  unfold escapeChar
  split
  next quote => exact lettered '"' (by simp [quote, letterEscape?]) (by subst quote; rfl)
  split
  next slash => exact lettered '\\' (by simp [slash, letterEscape?]) (by subst slash; rfl)
  split
  next back => exact lettered 'b' (by simp [back, letterEscape?]) (by subst back; rfl)
  split
  next feed => exact lettered 'f' (by simp [feed, letterEscape?]) (by subst feed; rfl)
  split
  next line => exact lettered 'n' (by simp [line, letterEscape?]) (by subst line; rfl)
  split
  next carriage => exact lettered 'r' (by simp [carriage, letterEscape?]) (by subst carriage; rfl)
  split
  next tab => exact lettered 't' (by simp [tab, letterEscape?]) (by subst tab; rfl)
  next quote slash back feed line carriage tab =>
    have noLetter : ¬ hasLetter c := by simp [hasLetter, back, feed, line, carriage, tab]
    split
    next control =>
      rw [pieceOf, if_pos ⟨control, noLetter⟩]
      exact .unit _ _ _ _ _ (hexUnit?_hexDigit control)
    next plain =>
      rw [pieceOf, if_neg fun unit => plain unit.1]
      exact .plain c (Nat.le_of_not_lt plain) quote slash

/-- The characters of a text, each escaped where it must be, state the pieces of that text. -/
theorem statesPieces_flatMap (text : List Char) :
    StatesPieces (text.flatMap escapeChar) (piecesOf text) := by
  induction text with
  | nil => exact .nothing
  | cons c text inductionHypothesis =>
    exact .more _ _ _ _ (statesPiece_escapeChar c) inductionHypothesis

/-- The break between written items is a gap, in either style and at every level. -/
theorem lineBreak_blank (style : Style) (level : Nat) :
    IsGapText (lineBreak style level) := by
  intro c member
  cases style with
  | compact => cases member
  | pretty =>
    rcases List.mem_cons.mp member with rfl | space
    · decide
    · rw [List.eq_of_mem_replicate space]
      decide

/-- A key is marked with a colon and perhaps a blank. -/
theorem keyMark_colon (style : Style) : ∃ gap, keyMark style = ':' :: gap ∧ IsGapText gap := by
  cases style with
  | compact => exact ⟨[], rfl, isGapText_nil⟩
  | pretty => exact ⟨[' '], rfl, by simp [IsGapText, isGap]⟩

mutual

/-- A value that is written is stated by its text. The induction is on the value, with items and
fields alongside. -/
theorem statesRaw_write (style : Style) : ∀ (value : Value) (level : Nat),
    StatesRaw (write style level value) value.raw
  | .null, _ => by
    rw [write, Value.raw]
    exact .null
  | .bool true, _ => by
    rw [write, Value.raw]
    exact .yes
  | .bool false, _ => by
    rw [write, Value.raw]
    exact .no
  | .int n, _ => by
    rw [write, Value.raw, ← intWritten_text]
    exact .number _ _ (intWritten n).states
  | .float x, _ => by
    rw [write, Value.raw]
    cases writes : floatText? x with
    | none =>
      rw [floatNumeral?, writes]
      exact .null
    | some text =>
      obtain ⟨written, rfl, numeral⟩ := floatText?_numeral writes
      rw [numeral]
      exact .number _ _ written.states
  | .string text, _ => by
    rw [write, Value.raw]
    exact .string _ _ (statesPieces_flatMap text.toList)
  | .array [], _ => by
    rw [write, Value.raw, rawItems]
    exact .emptyArray [] isGapText_nil
  | .array (item :: items), level => by
    rw [write, Value.raw, rawItems]
    exact .array _ _ (statesItems_write style item items (level + 1)
      (lineBreak_blank style (level + 1)) (lineBreak_blank style level))
  | .object [], _ => by
    rw [write, Value.raw, rawFields]
    exact .emptyObject [] isGapText_nil
  | .object ((key, value) :: fields), level => by
    rw [write, Value.raw, rawFields]
    exact .object _ _ (statesFields_write style key value fields (level + 1)
      (lineBreak_blank style (level + 1)) (lineBreak_blank style level))
termination_by value => sizeOf value

/-- Items that are written are stated by their text, with the gaps around them. -/
theorem statesItems_write (style : Style) : ∀ (item : Value) (items : List Value) (level : Nat)
    {before after : List Char}, IsGapText before → IsGapText after →
      StatesItems (before ++ write style level item ++ writeItems style level items ++ after)
        (item.raw :: rawItems items)
  | item, [], level, before, after, front, back => by
    have states := StatesItems.last before _ after _ front (statesRaw_write style item level) back
    simpa only [writeItems, rawItems, List.append_nil, List.append_assoc] using states
  | item, next :: items, level, before, after, front, back => by
    have others := statesItems_write style next items level (lineBreak_blank style level) back
    have states := StatesItems.more before _ [] _ _ _ front (statesRaw_write style item level)
      isGapText_nil others
    simpa only [writeItems, rawItems, List.nil_append, List.append_assoc, List.cons_append]
      using states
termination_by item items => sizeOf item + sizeOf items

/-- Fields that are written are stated by their text, with the gaps around them. -/
theorem statesFields_write (style : Style) : ∀ (key : String) (value : Value)
    (fields : List (String × Value)) (level : Nat) {before after : List Char},
      IsGapText before → IsGapText after →
      StatesFields (before ++ writeString key.toList ++ keyMark style ++ write style level value ++
        writeFields style level fields ++ after) ((piecesOf key.toList, value.raw) :: rawFields fields)
  | key, value, [], level, before, after, front, back => by
    obtain ⟨gap, mark, blank⟩ := keyMark_colon style
    have states := StatesFields.last before _ [] gap _ after _ _ front
      (statesPieces_flatMap key.toList) isGapText_nil blank (statesRaw_write style value level) back
    simpa only [writeFields, rawFields, writeString, mark, List.append_nil, List.nil_append,
      List.append_assoc, List.cons_append] using states
  | key, value, (next, held) :: fields, level, before, after, front, back => by
    obtain ⟨gap, mark, blank⟩ := keyMark_colon style
    have others := statesFields_write style next held fields level (lineBreak_blank style level) back
    have states := StatesFields.more before _ [] gap _ [] _ _ _ _ front
      (statesPieces_flatMap key.toList) isGapText_nil blank (statesRaw_write style value level)
      isGapText_nil others
    simpa only [writeFields, rawFields, writeString, mark, List.nil_append, List.append_assoc,
      List.cons_append] using states
termination_by _ value fields => sizeOf value + sizeOf fields

end

/-- A written value is a document that states exactly that value, in either style. -/
theorem isDocument_write (style : Style) (value : Value) :
    IsDocument (write style 0 value) value.raw :=
  ⟨[], _, [], by rw [List.nil_append, List.append_nil], isGapText_nil, statesRaw_write style value 0,
    isGapText_nil⟩

/-- The text of a value, in either style, is read as the value that was written. -/
theorem parse?_write (style : Style) (value : Value) :
    Raw.parse? (write style 0 value) = some value.raw :=
  (Raw.parse?_eq_some_iff _ _).mpr (isDocument_write style value)

/-- The number codec reads back a floating point number that it printed. -/
def ReadsBack (x : Float) : Prop := ((floatText? x).bind Raw.parse?).bind Raw.float? = some x

/-- A float that is read back from its text is what its written numeral denotes. -/
theorem float?_raw {x : Float} (readsBack : ReadsBack x) : (Value.float x).raw.float? = some x := by
  unfold ReadsBack at readsBack
  cases writes : floatText? x with
  | none => simp [writes] at readsBack
  | some text =>
    have written : write .compact 0 (.float x) = text := by simp [write, writes]
    rw [writes, Option.bind_some, ← written, parse?_write] at readsBack
    exact readsBack

/-- An object with known and distinct keys is read as a record of its fields. -/
theorem recordOfFields?_rawFields {names : List String} (fields : List (String × Value))
    (known : ∀ field ∈ fields, field.1 ∈ names) (distinct : (fields.map (·.1)).Nodup) :
    recordOfFields? names (rawFields fields) =
      some (fields.map fun field => (field.1, field.2.raw)) := by
  induction fields with
  | nil => rfl
  | cons field fields inductionHypothesis =>
    obtain ⟨key, value⟩ := field
    rw [List.map_cons, List.nodup_cons] at distinct
    have others := inductionHypothesis
      (fun field member => known field (List.mem_cons_of_mem _ member)) distinct.2
    have isKnown : names.contains key = true :=
      List.contains_iff_mem.mpr (known (key, value) List.mem_cons_self)
    have isNew : (fields.map fun field => (field.1, field.2.raw)).any (·.1 == key) = false := by
      rw [List.any_eq_false]
      intro entry member same
      obtain ⟨field, there, rfl⟩ := List.mem_map.mp member
      have sameKey : field.1 = key := beq_iff_eq.mp same
      exact distinct.1 (List.mem_map.mpr ⟨field, there, sameKey⟩)
    simp only [rawFields, recordOfFields?, textOfPieces?_piecesOf, others, isKnown, isNew,
      Option.bind_eq_bind, Option.bind_some, Bool.not_true, Bool.false_eq_true, if_false,
      List.map_cons]

/-- The text of an object with known and distinct keys is read as a record of its fields. -/
theorem Record.parse?_write (names : List String) (style : Style) (fields : List (String × Value))
    (known : ∀ field ∈ fields, field.1 ∈ names) (distinct : (fields.map (·.1)).Nodup) :
    Record.parse? names (write style 0 (.object fields)) =
      some (fields.map fun field => (field.1, field.2.raw)) := by
  rw [Record.parse?, Json.parse?_write, Option.bind_some]
  exact recordOfFields?_rawFields fields known distinct

end DashboardTools.Json
