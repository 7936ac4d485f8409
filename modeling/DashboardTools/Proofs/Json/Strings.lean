import DashboardTools.Json.Printer
import DashboardTools.Json.Value

/-!
# Strings that are written are read

Every character is written so that a reader finds exactly one piece for it, and the pieces of a
written text join to that text again: the control characters that are written as units are no
surrogates, so no unit needs a partner.
-/

namespace DashboardTools.Json

/-- The control characters that are written as a backslash and a letter. -/
def hasLetter (c : Char) : Prop :=
  c = '\x08' ∨ c = '\x0C' ∨ c = '\n' ∨ c = '\r' ∨ c = '\t'

/-- Whether a control character has a letter for its escape can be decided by the list of those
letters. -/
instance (c : Char) : Decidable (hasLetter c) := by
  unfold hasLetter
  infer_instance

/-- The piece that a reader finds for a character. Control characters without a letter of their own
are found as units. -/
def pieceOf (c : Char) : Piece :=
  if c.toNat < 0x20 ∧ ¬ hasLetter c then .escaped c.toNat else .char c

/-- The pieces that a reader finds for a text, one for each of its characters. -/
def piecesOf (text : List Char) : List Piece := text.map pieceOf

/-- The four digits of a written control character are read as its code. -/
theorem hexUnit?_hexDigit {n : Nat} (small : n < 0x20) :
    hexUnit? '0' '0' (hexDigit (n / 16)) (hexDigit (n % 16)) = some n := by
  revert n
  decide

/-- A unit that is no surrogate stands for a character on its own. -/
theorem joinPieces?_escaped {unit : Nat} (small : unit < 0xD800) (pieces : List Piece) :
    joinPieces? (.escaped unit :: pieces) = (joinPieces? pieces).map (Char.ofNat unit :: ·) := by
  match pieces with
  | [] => simp [joinPieces?, small]
  | .char c :: pieces => simp [joinPieces?, small]
  | .escaped low :: pieces => simp [joinPieces?, small]

/-- The pieces written for a text join to that text. -/
theorem joinPieces?_piecesOf (text : List Char) : joinPieces? (piecesOf text) = some text := by
  induction text with
  | nil => rfl
  | cons c text inductionHypothesis =>
    change joinPieces? (pieceOf c :: piecesOf text) = some (c :: text)
    by_cases unit : c.toNat < 0x20 ∧ ¬ hasLetter c
    · have small : c.toNat < 0xD800 := by omega
      rw [pieceOf, if_pos unit, joinPieces?_escaped small, inductionHypothesis, Char.ofNat_toNat]
      rfl
    · rw [pieceOf, if_neg unit, joinPieces?, inductionHypothesis]
      rfl

/-- The pieces of a written text join to the text. -/
@[simp] theorem textOfPieces?_piecesOf (text : String) :
    textOfPieces? (piecesOf text.toList) = some text := by
  rw [textOfPieces?, joinPieces?_piecesOf]
  simp

end DashboardTools.Json
