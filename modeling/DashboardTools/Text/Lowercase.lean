import DashboardTools.Text.CaseTable

/-!
# Lowercasing

Each character has a lowercase form of one character or, for the capital dotted I, of two.
One letter depends on its surroundings: a capital sigma becomes the final sigma when a cased
letter stands before it and none after it, characters that case passes over being skipped on
both sides.
-/

namespace DashboardTools.Text

/-- The lowercase form of a character on its own, as if nothing stood around it. Only the capital
dotted I has one of two characters. -/
def lowercaseChar (c : Char) : List Char :=
  if c.toNat < 0x80 then [c.toLower]
  else if c = '\u0130' then ['i', '\u0307']
  else
    match shifted? lowercaseRows c with
    | some small => [small]
    | none => [c]

/-- The first character of the lowercase form, which keeps a text's length. -/
def lowercaseFirst (c : Char) : Char := (lowercaseChar c).headD c

/-- Whether a cased letter comes first after the characters that case passes over. -/
def meetsCased (text : List Char) : Bool :=
  match text.dropWhile caseIgnorableRanges.covers with
  | [] => false
  | c :: _ => casedRanges.covers c

/-- The lowercase form of a capital sigma; `before` is the text to its left, nearest first. -/
def lowercaseSigma (before after : List Char) : Char :=
  if meetsCased before && !meetsCased after then 'ς' else 'σ'

/-- Lowercases a text whose left surroundings are `before`, nearest character first. -/
def lowercaseAfter (before : List Char) : List Char → List Char
  | [] => []
  | c :: rest =>
    (if c = 'Σ' then [lowercaseSigma before rest] else lowercaseChar c) ++
      lowercaseAfter (c :: before) rest

/-- The lowercase form of a text. A capital sigma is lowered by what stands around it, everything
else by itself. -/
def lowercase (text : List Char) : List Char := lowercaseAfter [] text

end DashboardTools.Text
