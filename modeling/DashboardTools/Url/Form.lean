import DashboardTools.Url.Percent

/-!
# Form encoding of query pairs

Letters and digits of ASCII and four marks are written as they are, a space as a plus sign, and
every other byte in percent form. A pair has an equals sign between its parts and pairs have an
ampersand between them, so neither of these can come from the parts.
-/

namespace DashboardTools.Url

open DashboardTools.Text

/-- Whether a character is written as it is in a form. All others are encoded. -/
def isFormChar (c : Char) : Bool :=
  c.isAlphanum || c == '*' || c == '-' || c == '.' || c == '_'

/-- One part of a pair as it is written: spaces become plus signs, and what may not be shown becomes
percent forms. -/
def formEncode (text : List Char) : List Char :=
  text.flatMap fun c =>
    if isFormChar c then [c] else if c = ' ' then ['+'] else percentChar c

/-- A pair as it is written, with an equals sign even when its value is empty. -/
def formPair (pair : List Char × List Char) : List Char :=
  formEncode pair.1 ++ '=' :: formEncode pair.2

/-- Pairs added to a query, each after an ampersand unless the query is empty. -/
def addPairs (query : List Char) : List (List Char × List Char) → List Char
  | [] => query
  | pair :: rest =>
    addPairs (if query.isEmpty then formPair pair else query ++ '&' :: formPair pair) rest

end DashboardTools.Url
