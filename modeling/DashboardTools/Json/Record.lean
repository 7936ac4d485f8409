import DashboardTools.Json.Value

/-!
# Records

A record is a raw value read for a fixed list of field names. As an object it may hold other fields
too, which are not looked at beyond the grammar, but no known field twice. As an array it holds the
fields in their order, and only fields at the end may be left out.
-/

namespace DashboardTools.Json

open DashboardTools.Decimal

/-- A record's fields that were found, each with its name. -/
abbrev Record := List (String × Raw)

/-- Finds the known fields of an object. A known key that is repeated is an error; an unknown one
may be repeated. -/
def recordOfFields? (names : List String) : List (List Piece × Raw) → Option Record
  | [] => some []
  | (key, raw) :: rest => do
    let key ← textOfPieces? key
    let record ← recordOfFields? names rest
    if !names.contains key then some record
    else if record.any (·.1 == key) then none
    else some ((key, raw) :: record)

/-- Reads a raw value as a record with these field names. -/
def Raw.record? (names : List String) : Raw → Option Record
  | .object fields => recordOfFields? names fields
  | .array items => if items.length ≤ names.length then some (names.zip items) else none
  | _ => none

/-- The raw value of a field, under a name that occurs at most once in the record. -/
def Record.field? (record : Record) (name : String) : Option Raw :=
  (record.find? (·.1 == name)).map (·.2)

/-- Reads a raw value as a text. Nothing but a string is one, and its surrogates must be paired. -/
def Raw.text? : Raw → Option String
  | .string pieces => textOfPieces? pieces
  | _ => none

/-- Reads a raw value as an integer from zero up to 64 bits. -/
def Raw.natural? : Raw → Option Nat
  | .number numeral =>
    match numeral.number? with
    | some (.int n) => if 0 ≤ n then some n.toNat else none
    | _ => none
  | _ => none

/-- Reads a raw value as a floating point number; an integer counts as the nearest one. -/
def Raw.float? : Raw → Option Float
  | .number numeral =>
    match numeral.number? with
    | some (.int n) => some (Float.ofInt n)
    | some (.float x) => some x
    | none => none
  | _ => none

/-- The text in a field, if the field is there and holds one. -/
def Record.text? (record : Record) (name : String) : Option String :=
  (record.field? name).bind Raw.text?

/-- The natural number in a field, if the field is there and holds one that fits in a word. -/
def Record.natural? (record : Record) (name : String) : Option Nat :=
  (record.field? name).bind Raw.natural?

/-- The floating point number in a field, if the field is there and holds a number. -/
def Record.float? (record : Record) (name : String) : Option Float :=
  (record.field? name).bind Raw.float?

/-- The text in a field that may be absent or null; `none` when it is there and no text. -/
def Record.optionalText? (record : Record) (name : String) : Option (Option String) :=
  match record.field? name with
  | none => some none
  | some .null => some none
  | some raw => raw.text?.map some

/-- Reads a text as a record with these field names. -/
def Record.parse? (names : List String) (text : List Char) : Option Record :=
  (Raw.parse? text).bind (Raw.record? names)

end DashboardTools.Json
