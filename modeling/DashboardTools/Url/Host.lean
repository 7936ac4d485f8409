import DashboardTools.Decimal.Integer
import DashboardTools.Url.Name
import DashboardTools.Url.Percent

/-!
# Hosts

The host of a web address is a domain name, four numbers or eight groups of hexadecimal digits in
brackets. A name whose last label looks like a number has to be four numbers, which may be written
in other bases or fewer parts.
-/

namespace DashboardTools.Url

open DashboardTools.Decimal
open DashboardTools.Text

/-- The number that one part stands for: hexadecimal after `0x`, octal after `0`, else decimal. -/
def partValue? : List Char → Option Nat
  | [] => none
  | '0' :: 'x' :: rest => inBase? 16 0 rest
  | '0' :: 'X' :: rest => inBase? 16 0 rest
  | '0' :: c :: rest => inBase? 8 0 (c :: rest)
  | text => inBase? 10 0 text

/-- The parts between dots, without an empty one at the end. -/
def dottedParts (host : List Char) : List (List Char) :=
  let parts := fields (· == '.') host
  if 1 < parts.length ∧ parts.getLast? = some [] then parts.dropLast else parts

/-- Whether the last label of a name looks like a number. -/
def endsInNumber (host : List Char) : Bool :=
  match (dottedParts host).getLast? with
  | none => false
  | some last => (!last.isEmpty && last.all Char.isDigit) || (partValue? last).isSome

/-- The address of 32 bits that one to four parts stand for; the last fills all that is left. -/
def addressOfParts? (parts : List Nat) : Option Nat :=
  match parts.reverse with
  | [] => none
  | last :: before =>
    if 4 < parts.length ∨ Nat.pow 256 (4 - before.length) ≤ last ∨ before.any (255 < ·) then none
    else
      let high := before.reverse.zipIdx.foldl
        (fun sum entry => sum + entry.1 * Nat.pow 256 (3 - entry.2)) 0
      some (high + last)

/-- Four numbers with dots between them, which is how an address of 32 bits is written. -/
def addressText (address : Nat) : List Char :=
  ['.'].intercalate ([16777216, 65536, 256, 1].map fun weight => natText (address / weight % 256))

/-- A number up to 255 without a leading zero, at the start of a text, with the text after it. -/
def takeByte? (text : List Char) : Option (Nat × List Char) :=
  let digits := text.takeWhile Char.isDigit
  let value := digits.foldl (fun value c => value * 10 + (c.toNat - '0'.toNat)) 0
  if digits.isEmpty ∨ (1 < digits.length ∧ digits.head? = some '0') ∨ 255 < value then none
  else some (value, text.drop digits.length)

/-- The two groups that four numbers up to 255 stand for. -/
def embeddedGroups? (text : List Char) : Option (List Nat) := do
  let (a, rest) ← takeByte? text
  let ('.' :: rest) := rest | none
  let (b, rest) ← takeByte? rest
  let ('.' :: rest) := rest | none
  let (c, rest) ← takeByte? rest
  let ('.' :: rest) := rest | none
  let (d, rest) ← takeByte? rest
  if rest.isEmpty then some [a * 256 + b, c * 256 + d] else none

/-- Groups that were read, and how many of them stand before the gap that two colons leave. -/
structure Groups where
  values : List Nat
  gap? : Option Nat

/-- Reads the groups from one of them on. The fuel bounds their number. -/
def readGroups? : (fuel : Nat) → Groups → List Char → Option Groups
  | 0, _, _ => none
  | _ + 1, groups, [] => some groups
  | fuel + 1, groups, ':' :: rest =>
    if groups.gap?.isSome ∨ 8 ≤ groups.values.length then none
    else readGroups? fuel { groups with gap? := some groups.values.length } rest
  | fuel + 1, groups, text =>
    let digits := (text.take 4).takeWhile fun c => (digitValue? c).isSome
    let rest := text.drop digits.length
    if 8 ≤ groups.values.length then none
    else
      match rest with
      | '.' :: _ =>
        if digits.isEmpty ∨ 6 < groups.values.length + (if groups.gap?.isSome then 1 else 0) then none
        else (embeddedGroups? text).map fun pair => { groups with values := groups.values ++ pair }
      | _ =>
        let read := { groups with values := groups.values ++ [(inBase? 16 0 digits).getD 0] }
        match rest with
        | [] => some read
        | ':' :: more => if more.isEmpty then none else readGroups? fuel read more
        | _ => none

/-- The eight groups that a text between brackets stands for. -/
def groupsOf? (text : List Char) : Option (List Nat) :=
  let read? :=
    match text with
    | ':' :: ':' :: rest => readGroups? (text.length + 2) ⟨[], some 0⟩ rest
    | ':' :: _ => none
    | [] => none
    | [_] => none
    | _ => readGroups? (text.length + 2) ⟨[], none⟩ text
  match read? with
  | none => none
  | some ⟨values, none⟩ => if values.length = 8 then some values else none
  | some ⟨values, some gap⟩ =>
    if 7 < values.length then none
    else some (values.take gap ++ List.replicate (8 - values.length) 0 ++ values.drop gap)

/-- How many of the first groups are zero, as far as they stand together. -/
def zeroRun (groups : List Nat) : Nat := (groups.takeWhile (· == 0)).length

/-- The start and length of the first longest run of at least two zero groups. -/
def longestZeroRun (groups : List Nat) : Option (Nat × Nat) :=
  (List.range 8).foldl (fun best start =>
    let length := zeroRun (groups.drop start)
    if length < 2 then best
    else
      match best with
      | some (_, longest) => if longest < length then some (start, length) else best
      | none => some (start, length)) none

/-- Groups in hexadecimal with colons between them, without zeros in front. -/
def groupsText (groups : List Nat) : List Char :=
  [':'].intercalate (groups.map (Nat.toDigits 16))

/-- The text of eight groups in brackets, two colons in place of the longest run of zeros. -/
def bracketedText (groups : List Nat) : List Char :=
  '[' :: (match longestZeroRun groups with
    | none => groupsText groups
    | some (start, length) =>
      groupsText (groups.take start) ++ ':' :: ':' :: groupsText (groups.drop (start + length)))
    ++ [']']

/-- What may not stand in the host of a web address. -/
def nameForbids (c : Char) : Bool :=
  decide (c.toNat ≤ 0x20) || c.toNat == 0x7F || "%#/:<>?@[\\]^|".toList.contains c

/-- The host of a web address as it is written, `none` when there is no such host. -/
def webHost? (text : List Char) : Option (List Char) :=
  match text with
  | '[' :: rest =>
    if rest.getLast? = some ']' then (groupsOf? rest.dropLast).map bracketedText else none
  | _ =>
    match Utf8.decode? (percentDecode (Utf8.encode text)) with
    | none => none
    | some decoded =>
      match nameOf? decoded with
      | none => none
      | some name =>
        if name.isEmpty ∨ name.any nameForbids then none
        else if endsInNumber name then
          (((dottedParts name).mapM partValue?).bind addressOfParts?).map addressText
        else some name

/-- What may not stand in the host of any other address. -/
def otherHostForbids (c : Char) : Bool := "\x00\t\n\r #/:<>?@[\\]^|".toList.contains c

/-- The host of an address of another kind as it is written. -/
def otherHost? (text : List Char) : Option (List Char) :=
  match text with
  | '[' :: rest =>
    if rest.getLast? = some ']' then (groupsOf? rest.dropLast).map bracketedText else none
  | _ => if text.any otherHostForbids then none else some (percentEncode [] text)

end DashboardTools.Url
