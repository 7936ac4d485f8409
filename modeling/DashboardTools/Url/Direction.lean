import DashboardTools.Text.Blank
import DashboardTools.Url.DirectionTable

/-!
# Labels in two directions

A name with a character that runs to the left is shown in the order in which it is written only if
each of its labels keeps to one direction: it starts with a letter, all its letters run the way
the first does, and it ends, but for marks, in a letter or a digit. A label that runs to the left
holds digits of one kind.
-/

namespace DashboardTools.Url

open DashboardTools.Text

/-- Whether a character makes a name one of two directions. -/
def runsLeft (c : Char) : Bool := rightRanges.covers c || arabicDigitRanges.covers c

/-- Whether what follows the first letter of a label keeps to the direction of that letter. -/
def keepsDirection (first : Direction) (body : List Direction) : Bool :=
  match body.getLast? with
  | none => true
  | some last =>
    if first = .left then
      (last == .left || last == .europeanDigit) &&
        !body.contains .right && !body.contains .arabicDigit
    else
      (last == .right || last == .europeanDigit || last == .arabicDigit) &&
        !body.contains .left && !(body.contains .europeanDigit && body.contains .arabicDigit)

/-- Whether a label keeps to one direction, as a name with letters from right to left has to. -/
def isOneWay (label : List Char) : Bool :=
  match label with
  | [] => true
  | first :: rest =>
    (direction first == .left || direction first == .right) &&
      keepsDirection (direction first) ((dropEnd (direction · == .mark) rest).map direction)

/-- Whether the labels of a name may stand together. No character of ASCII runs to the left. -/
def areOneWay (labels : List (List Char)) : Bool :=
  if labels.all isAscii then true
  else if labels.any fun label => label.any runsLeft then labels.all isOneWay
  else true

end DashboardTools.Url
