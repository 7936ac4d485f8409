import DashboardTools.Text.NormalTable
import DashboardTools.Url.JoiningTable

/-!
# Joiners

Two characters without a shape ask for letters to be joined or kept apart. A name holds one only
where it makes a difference: after a mark that takes the vowel from a consonant, or, for the one
that keeps letters apart, between two letters that would join.
-/

namespace DashboardTools.Url

open DashboardTools.Text

/-- The character that keeps letters apart, which a name may hold only where it makes a
difference. -/
def nonJoiner : Char := '\u200C'

/-- The character that joins letters, which a name may hold only where it makes a difference. -/
def joiner : Char := '\u200D'

/-- Whether a mark takes the vowel from the consonant before it: such marks have a class of their
own. -/
def isVowelKiller (c : Char) : Bool := combiningClass c == 9

/-- Whether the first letter that is not seen through has a property. -/
def meetsLetter (property : Char → Bool) (text : List Char) : Bool :=
  (text.dropWhile isTransparent).head?.any property

/-- Whether a joiner may stand between two texts, the first of which is given backwards. -/
def joinerFits (c : Char) (before after : List Char) : Bool :=
  before.head?.any isVowelKiller ||
    (c == nonJoiner && meetsLetter joinsOnward before && meetsLetter joinsBackward after)

/-- Whether all joiners of a text may stand where they do; `before` is the text to its left,
nearest character first. -/
def joinersFit (before : List Char) : List Char → Bool
  | [] => true
  | c :: rest =>
    (!(c == nonJoiner || c == joiner) || joinerFits c before rest) && joinersFit (c :: before) rest

end DashboardTools.Url
