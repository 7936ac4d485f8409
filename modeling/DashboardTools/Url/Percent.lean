import DashboardTools.Text.Utf8

/-!
# Percent encoding

A character that an address cannot show is written as its UTF-8 bytes, each as a percent sign and
two hexadecimal digits. Control characters and characters beyond ASCII always are; which others
are depends on the part of the address.
-/

namespace DashboardTools.Url

open DashboardTools.Text

/-- The hexadecimal digit, in capitals, with this value. -/
def capitalHex (n : Nat) : Char := (Nat.digitChar n).toUpper

/-- A byte as a percent sign and two digits in capitals. -/
def percentByte (byte : UInt8) : List Char :=
  ['%', capitalHex (byte.toNat / 16), capitalHex (byte.toNat % 16)]

/-- A character as its bytes in percent form, one form for each byte. -/
def percentChar (c : Char) : List Char := (Utf8.encodeChar c).flatMap percentByte

/-- The ASCII characters that a part of an address does not show as they are. -/
abbrev EncodeSet := List Char

/-- What a fragment does not show, besides controls and characters beyond ASCII. -/
def fragmentSet : EncodeSet := [' ', '"', '<', '>', '\x60']

/-- What a path does not show, besides controls and characters beyond ASCII. -/
def pathSet : EncodeSet := fragmentSet ++ ['#', '?', '\x7b', '\x7d']

/-- What a query does not show, besides controls and characters beyond ASCII. -/
def querySet : EncodeSet := [' ', '"', '#', '<', '>']

/-- What the query of a web address does not show. -/
def webQuerySet : EncodeSet := querySet ++ ['\x27']

/-- What a user name or password does not show, besides controls and characters beyond ASCII. -/
def userSet : EncodeSet :=
  pathSet ++ ['/', ':', ';', '=', '@', '[', '\\', ']', '^', '|']

/-- Whether a character is shown as it is: it is of ASCII, is no control, and is not among the
hidden ones. -/
def isShown (hidden : EncodeSet) (c : Char) : Bool :=
  decide (0x20 ≤ c.toNat) && decide (c.toNat < 0x7F) && !hidden.contains c

/-- A text with everything in percent form that is not shown. -/
def percentEncode (hidden : EncodeSet) (text : List Char) : List Char :=
  text.flatMap fun c => if isShown hidden c then [c] else percentChar c

/-- The value of a hexadecimal digit given as a byte. -/
def hexByte? (byte : UInt8) : Option Nat :=
  if 0x30 ≤ byte ∧ byte ≤ 0x39 then some (byte.toNat - 0x30)
  else if 0x41 ≤ byte ∧ byte ≤ 0x46 then some (byte.toNat - 0x37)
  else if 0x61 ≤ byte ∧ byte ≤ 0x66 then some (byte.toNat - 0x57)
  else none

/-- The bytes that percent forms stand for; a percent sign without two digits stands for itself. -/
def percentDecode : List UInt8 → List UInt8
  | [] => []
  | [a] => [a]
  | [a, b] => [a, b]
  | a :: b :: c :: rest =>
    if a = 0x25 then
      match hexByte? b, hexByte? c with
      | some high, some low => UInt8.ofNat (high * 16 + low) :: percentDecode rest
      | _, _ => a :: percentDecode (b :: c :: rest)
    else a :: percentDecode (b :: c :: rest)

end DashboardTools.Url
