import DashboardTools.Text.PrintableTable

/-!
# Quoted text

A text is quoted between double quotes. Quotes, backslashes and four control characters are written
with a backslash, and every other character that is not shown as itself by its number in braces.
-/

namespace DashboardTools.Text

/-- One character of a quotation, escaped where it would not be seen or would end the quotation. -/
def quoteChar (c : Char) : List Char :=
  if c = '\x00' then ['\\', '0']
  else if c = '\t' then ['\\', 't']
  else if c = '\r' then ['\\', 'r']
  else if c = '\n' then ['\\', 'n']
  else if c = '"' then ['\\', '"']
  else if c = '\\' then ['\\', '\\']
  else if unshownRanges.covers c then
    ['\\', 'u', '\x7b'] ++ Nat.toDigits 16 c.toNat ++ ['\x7d']
  else [c]

/-- A text in quotes, as it is shown in a message about a wrong value. -/
def quote (text : List Char) : List Char := '"' :: (text.flatMap quoteChar ++ ['"'])

end DashboardTools.Text
