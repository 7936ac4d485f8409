import DashboardTools.Json.Value
import DashboardTools.Decimal.Layout

/-!
# JSON text

A value is written compactly, without any blanks, or with each item and field on a line of its own,
two spaces further in than the bracket around it. Strings escape the quote, the backslash and the
control characters below the space and nothing else. Fields are written in the order in which the
value holds them.
-/

namespace DashboardTools.Json

open DashboardTools.Decimal

/-- How values are set out: on one line, or over several with indentation. -/
inductive Style where
  | compact
  | pretty
  deriving DecidableEq

/-- The hexadecimal digit with this value, in lower case. -/
def hexDigit (n : Nat) : Char := Nat.digitChar n

/-- One character of a string as it is written. Quotes, backslashes and control characters are
escaped; everything else stands for itself. -/
def escapeChar (c : Char) : List Char :=
  if c = '"' then ['\\', '"']
  else if c = '\\' then ['\\', '\\']
  else if c = '\x08' then ['\\', 'b']
  else if c = '\x0C' then ['\\', 'f']
  else if c = '\n' then ['\\', 'n']
  else if c = '\r' then ['\\', 'r']
  else if c = '\t' then ['\\', 't']
  else if c.toNat < 0x20 then
    ['\\', 'u', '0', '0', hexDigit (c.toNat / 16), hexDigit (c.toNat % 16)]
  else [c]

/-- A string as it is written, between quotes and with each of its characters escaped where it must
be. -/
def writeString (text : List Char) : List Char := '"' :: (text.flatMap escapeChar ++ ['"'])

/-- What comes before an item at this level: nothing, or a new line with two spaces for each
level. -/
def lineBreak (style : Style) (level : Nat) : List Char :=
  match style with
  | .compact => []
  | .pretty => '\n' :: List.replicate (2 * level) ' '

/-- What stands between a key and its value: a colon, with a space after it where values are set
out. -/
def keyMark : Style → List Char
  | .compact => [':']
  | .pretty => [':', ' ']

mutual

/-- A value as it is written; `level` counts the brackets around it. -/
def write (style : Style) (level : Nat) : Value → List Char
  | .null => "null".toList
  | .bool true => "true".toList
  | .bool false => "false".toList
  | .int n => intText n
  | .float x => (floatText? x).getD "null".toList
  | .string text => writeString text.toList
  | .array [] => ['[', ']']
  | .array (item :: items) =>
    '[' :: (lineBreak style (level + 1) ++ write style (level + 1) item ++
      writeItems style (level + 1) items ++ lineBreak style level ++ [']'])
  | .object [] => ['{', '}']
  | .object ((key, value) :: fields) =>
    '{' :: (lineBreak style (level + 1) ++ writeString key.toList ++ keyMark style ++
      write style (level + 1) value ++ writeFields style (level + 1) fields ++
      lineBreak style level ++ ['}'])

/-- The items after the first, each after a comma, all of them at one level. -/
def writeItems (style : Style) (level : Nat) : List Value → List Char
  | [] => []
  | item :: items =>
    ',' :: (lineBreak style level ++ write style level item ++ writeItems style level items)

/-- The fields after the first, each after a comma, with keys written like any other string. -/
def writeFields (style : Style) (level : Nat) : List (String × Value) → List Char
  | [] => []
  | (key, value) :: fields =>
    ',' :: (lineBreak style level ++ writeString key.toList ++ keyMark style ++
      write style level value ++ writeFields style level fields)

end

/-- The text of a value without any blanks between its tokens. -/
def Value.compact (value : Value) : String := .ofList (write .compact 0 value)

/-- The text of a value with one line for each item and field. -/
def Value.pretty (value : Value) : String := .ofList (write .pretty 0 value)

end DashboardTools.Json
