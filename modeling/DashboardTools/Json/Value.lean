import DashboardTools.Json.Raw

/-!
# JSON values

A value has numbers in range, strings of whole characters and objects whose keys are distinct and
sorted. It is read from a raw value: of a repeated key the last field counts, and a value nested
too deep, a numeral too large or an escaped unit without its partner makes the whole unreadable.
-/

namespace DashboardTools.Json

open DashboardTools.Decimal

/-- A JSON value as programs see it. An object that was read has each of its keys once, in rising
order. -/
inductive Value where
  | null
  | bool (value : Bool)
  | int (value : Int)
  | float (value : Float)
  | string (value : String)
  | array (items : List Value)
  | object (fields : List (String × Value))
  deriving Inhabited

/-- Joins pieces to characters: a high unit needs a low one after it, and a low one a high one
before it. -/
def joinPieces? : List Piece → Option (List Char)
  | [] => some []
  | .char c :: rest => (joinPieces? rest).map (c :: ·)
  | .escaped high :: .escaped low :: rest =>
    if high < 0xD800 ∨ 0xDFFF < high then
      (joinPieces? (.escaped low :: rest)).map (Char.ofNat high :: ·)
    else if high < 0xDC00 ∧ 0xDC00 ≤ low ∧ low ≤ 0xDFFF then
      (joinPieces? rest).map
        (Char.ofNat (0x10000 + (high - 0xD800) * 0x400 + (low - 0xDC00)) :: ·)
    else none
  | .escaped unit :: rest =>
    if unit < 0xD800 ∨ 0xDFFF < unit then (joinPieces? rest).map (Char.ofNat unit :: ·) else none

/-- The text of a string, put together from its pieces. Surrogates without their partner are no
text. -/
def textOfPieces? (pieces : List Piece) : Option String := (joinPieces? pieces).map .ofList

/-- Puts a field among sorted ones, in the place of one with the same key. -/
def putField (key : String) (value : Value) : List (String × Value) → List (String × Value)
  | [] => [(key, value)]
  | field :: rest =>
    if key = field.1 then (key, value) :: rest
    else if key < field.1 then (key, value) :: field :: rest
    else field :: putField key value rest

/-- Sorts fields by their keys, the last of equal keys standing for all of them. -/
def sortFields (fields : List (String × Value)) : List (String × Value) :=
  fields.foldl (fun sorted field => putField field.1 field.2 sorted) []

/-- The number as a value, an integer or a float as it was read. -/
def Value.ofNumber : Number → Value
  | .int n => .int n
  | .float x => .float x

mutual

/-- The value of a raw value whose arrays and objects nest at most `depth` deep. -/
def Value.ofRaw? : (depth : Nat) → Raw → Option Value
  | _, .null => some .null
  | _, .bool b => some (.bool b)
  | _, .number numeral => numeral.number?.map .ofNumber
  | _, .string pieces => (textOfPieces? pieces).map .string
  | 0, .array _ => none
  | depth + 1, .array items => (Value.ofItems? depth items).map .array
  | 0, .object _ => none
  | depth + 1, .object fields => (Value.ofFields? depth fields).map fun read => .object (sortFields read)

/-- The values of an array's items. One item without a value leaves the whole array without one. -/
def Value.ofItems? : (depth : Nat) → List Raw → Option (List Value)
  | _, [] => some []
  | depth, item :: rest => do
    let value ← Value.ofRaw? depth item
    let values ← Value.ofItems? depth rest
    some (value :: values)

/-- The fields of an object, in the order in which they are written. -/
def Value.ofFields? : (depth : Nat) → List (List Piece × Raw) → Option (List (String × Value))
  | _, [] => some []
  | depth, (key, item) :: rest => do
    let key ← textOfPieces? key
    let value ← Value.ofRaw? depth item
    let fields ← Value.ofFields? depth rest
    some ((key, value) :: fields)

end

/-- How deep arrays and objects may nest in a text that is read. -/
def nestingLimit : Nat := 127

/-- The value that a text consists of, with nothing but blanks around it. -/
def Value.parse? (text : String) : Option Value :=
  (Raw.parse? text.toList).bind (Value.ofRaw? nestingLimit)

/-- The value of a field of an object. Any other value has no fields. -/
def Value.field? (key : String) : Value → Option Value
  | .object fields => (fields.find? (·.1 == key)).map (·.2)
  | _ => none

/-- The text of a string value. Any other value has none. -/
def Value.text? : Value → Option String
  | .string text => some text
  | _ => none

end DashboardTools.Json
