import DashboardTools.Decimal.Base
import DashboardTools.Decimal.Numeral

/-!
# JSON by its grammar alone

A raw value is what the grammar of JSON sees: numbers are numerals, strings are sequences of
characters and escaped units, and objects keep every field, repeated ones too. Whether a numeral
is in range, whether escaped units pair up to characters and how deep values nest is decided by
whoever reads the raw value.
-/

namespace DashboardTools.Json

open DashboardTools.Decimal

/-- One piece of a string: a character, or a 16-bit unit given by its hexadecimal digits. -/
inductive Piece where
  | char (c : Char)
  | escaped (unit : Nat)
  deriving DecidableEq

/-- A value as the grammar sees it: numerals with all their digits, strings in pieces, and fields
with repeated keys. -/
inductive Raw where
  | null
  | bool (value : Bool)
  | number (numeral : Numeral)
  | string (pieces : List Piece)
  | array (items : List Raw)
  | object (fields : List (List Piece × Raw))

/-- The blanks between tokens. Other blanks of Unicode are none here. -/
def isGap (c : Char) : Bool := c == ' ' || c == '\t' || c == '\n' || c == '\r'

/-- The text after the blanks at its start, if there are any. -/
def skipGap (text : List Char) : List Char := text.dropWhile isGap

/-- The unit that four hexadecimal digits stand for, in either case. -/
def hexUnit? (a b c d : Char) : Option Nat := do
  let a ← digitValue? a
  let b ← digitValue? b
  let c ← digitValue? c
  let d ← digitValue? d
  some (((a * 16 + b) * 16 + c) * 16 + d)

/-- The character that a backslash and this letter stand for. -/
def letterEscape? : Char → Option Char
  | '"' => some '"'
  | '\\' => some '\\'
  | '/' => some '/'
  | 'b' => some '\x08'
  | 'f' => some '\x0C'
  | 'n' => some '\n'
  | 'r' => some '\r'
  | 't' => some '\t'
  | _ => none

/-- The pieces of a string up to its closing quote, with the text after that. -/
def takePieces : List Char → Option (List Piece × List Char)
  | [] => none
  | '"' :: rest => some ([], rest)
  | '\\' :: 'u' :: a :: b :: c :: d :: rest => do
    let unit ← hexUnit? a b c d
    let (pieces, rest) ← takePieces rest
    some (.escaped unit :: pieces, rest)
  | '\\' :: letter :: rest => do
    let c ← letterEscape? letter
    let (pieces, rest) ← takePieces rest
    some (.char c :: pieces, rest)
  | c :: rest =>
    if c.toNat < 0x20 then none
    else do
      let (pieces, rest) ← takePieces rest
      some (.char c :: pieces, rest)

/-- The digits at the start of a text, with the text after them. -/
def takeDigits (text : List Char) : List Nat × List Char :=
  ((text.takeWhile Char.isDigit).map fun c => c.toNat - '0'.toNat, text.dropWhile Char.isDigit)

/-- The whole digits of a numeral: a zero on its own, or digits of which the first is none. -/
def takeWhole? : List Char → Option (List Nat × List Char)
  | '0' :: rest => some ([0], rest)
  | text =>
    let (digits, rest) := takeDigits text
    if digits.isEmpty then none else some (digits, rest)

/-- The fraction digits of a numeral, none when it has no point. -/
def takeFraction? : List Char → Option (List Nat × List Char)
  | '.' :: text =>
    let (digits, rest) := takeDigits text
    if digits.isEmpty then none else some (digits, rest)
  | text => some ([], text)

/-- The sign of an exponent; `true` stands for a minus. -/
def takeSign : List Char → Bool × List Char
  | '+' :: rest => (false, rest)
  | '-' :: rest => (true, rest)
  | rest => (false, rest)

/-- The exponent of a numeral, if it has one. A mark of an exponent without digits is an error. -/
def takeExponent? : List Char → Option (Option (Bool × List Nat) × List Char)
  | [] => some (none, [])
  | c :: text =>
    if c = 'e' ∨ c = 'E' then
      let (negative, text) := takeSign text
      let (digits, rest) := takeDigits text
      if digits.isEmpty then none else some (some (negative, digits), rest)
    else some (none, c :: text)

/-- A numeral at the start of a text, with the text after it. -/
def takeNumeral? (text : List Char) : Option (Numeral × List Char) := do
  let (negative, text) := match text with
    | '-' :: rest => (true, rest)
    | _ => (false, text)
  let (whole, text) ← takeWhole? text
  let (fraction, text) ← takeFraction? text
  let (exponent?, text) ← takeExponent? text
  some (⟨negative, whole, fraction, exponent?⟩, text)

mutual

/-- A value at the start of a text, with the text after it. The fuel bounds the number of
values, items and fields on the way to any of them. -/
def takeRaw : (fuel : Nat) → List Char → Option (Raw × List Char)
  | 0, _ => none
  | fuel + 1, text =>
    match skipGap text with
    | 'n' :: 'u' :: 'l' :: 'l' :: rest => some (.null, rest)
    | 't' :: 'r' :: 'u' :: 'e' :: rest => some (.bool true, rest)
    | 'f' :: 'a' :: 'l' :: 's' :: 'e' :: rest => some (.bool false, rest)
    | '"' :: rest => do
      let (pieces, rest) ← takePieces rest
      some (.string pieces, rest)
    | '[' :: rest =>
      match skipGap rest with
      | ']' :: rest => some (.array [], rest)
      | _ => do
        let (items, rest) ← takeItems fuel rest
        some (.array items, rest)
    | '{' :: rest =>
      match skipGap rest with
      | '}' :: rest => some (.object [], rest)
      | _ => do
        let (fields, rest) ← takeFields fuel rest
        some (.object fields, rest)
    | text => do
      let (numeral, rest) ← takeNumeral? text
      some (.number numeral, rest)

/-- The items of an array from one of them to the closing bracket. -/
def takeItems : (fuel : Nat) → List Char → Option (List Raw × List Char)
  | 0, _ => none
  | fuel + 1, text => do
    let (item, rest) ← takeRaw fuel text
    match skipGap rest with
    | ',' :: rest => do
      let (items, rest) ← takeItems fuel rest
      some (item :: items, rest)
    | ']' :: rest => some ([item], rest)
    | _ => none

/-- The fields of an object from one of them to the closing brace. -/
def takeFields : (fuel : Nat) → List Char → Option (List (List Piece × Raw) × List Char)
  | 0, _ => none
  | fuel + 1, text =>
    match skipGap text with
    | '"' :: rest => do
      let (key, rest) ← takePieces rest
      match skipGap rest with
      | ':' :: rest => do
        let (value, rest) ← takeRaw fuel rest
        match skipGap rest with
        | ',' :: rest => do
          let (fields, rest) ← takeFields fuel rest
          some ((key, value) :: fields, rest)
        | '}' :: rest => some ([(key, value)], rest)
        | _ => none
      | _ => none
    | _ => none

end

/-- Fuel enough for any value in a text: every two steps read at least one character. -/
def readingFuel (text : List Char) : Nat := 2 * text.length + 2

/-- The value that a text consists of, blanks around it aside. -/
def Raw.parse? (text : List Char) : Option Raw :=
  match takeRaw (readingFuel text) text with
  | some (raw, rest) => if (skipGap rest).isEmpty then some raw else none
  | none => none

end DashboardTools.Json
