import DashboardTools.Text.MarkTable
import DashboardTools.Text.Normal
import DashboardTools.Url.Direction
import DashboardTools.Url.Joining
import DashboardTools.Url.NameTable
import DashboardTools.Url.Punycode

/-!
# Names of hosts

A name is a sequence of labels with dots between them. Its characters are first brought to small
letters of ordinary shape and composed, so that a name has one form however it is typed. A label
with characters beyond ASCII is then written in punycode after the mark `xn--`; a label that has
this mark already must be the written form of a label that needs one.
-/

namespace DashboardTools.Url

open DashboardTools.Text

/-- A text in the form that names have; fails when it holds a character that names refuse. -/
def nameForm? (text : List Char) : Option (List Char) :=
  (text.mapM nameChar?).map fun parts => composed parts.flatten

/-- The longest label beyond ASCII that is written. Longer ones make no name. -/
def longestLabel : Nat := 1000

/-- The longest written form that is read. Longer ones make no name. -/
def longestWritten : Nat := 2000

/-- Whether a label beyond ASCII may stand in a name: it does not start with a mark, and its joiners
stand where they make a difference. -/
def isLabel (label : List Char) : Bool :=
  decide (label.length ≤ longestLabel) && !label.head?.any isMark && joinersFit [] label

/-- The label with a written form, which is given without its mark. -/
def ofWritten? (written : List Char) : Option (List Char) :=
  if written.getLast? = some '-' ∨ longestWritten < written.length then none
  else
    match Punycode.decode? written with
    | none => none
    | some label =>
      if nameForm? label = some label ∧ !isAscii label ∧ Punycode.encode label = written then
        some label
      else none

/-- The label that a label of a name stands for. -/
def readLabel? (label : List Char) : Option (List Char) :=
  let read? :=
    match label with
    | 'x' :: 'n' :: '-' :: '-' :: written => if isAscii label then ofWritten? written else none
    | _ => some label
  read?.filter fun label => if isAscii label then true else isLabel label

/-- A label as it is written: unchanged if it is of ASCII, and otherwise with its mark and its
encoded form. -/
def writeLabel (label : List Char) : List Char :=
  if isAscii label then label else "xn--".toList ++ Punycode.encode label

/-- The name that a text stands for, as it is written; fails when the text is no name. -/
def nameOf? (text : List Char) : Option (List Char) := do
  let form ← nameForm? text
  let labels ← (fields (· == '.') form).mapM readLabel?
  if areOneWay labels then some (['.'].intercalate (labels.map writeLabel)) else none

end DashboardTools.Url
