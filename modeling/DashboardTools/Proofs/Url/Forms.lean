import DashboardTools.Proofs.Text.Fields
import DashboardTools.Proofs.Url.Extending

/-!
# Queries that state pairs

A server reads a query as pairs: ampersands part them, the first equals sign of each parts its name
from its value, a plus sign stands for a space and percent forms stand for bytes. The pairs that are
added to a query are read of it again, after those that it stated before, whatever characters they
have: what is written of a part holds none of these marks but in their meaning.
-/

namespace DashboardTools.Url

open DashboardTools.Text

/-- A part of a pair with its plus signs as spaces. -/
def spaced (part : List Char) : List Char := part.map fun c => if c = '+' then ' ' else c

/-- The bytes that a part of a pair stands for. -/
def formBytes (part : List Char) : List UInt8 := percentDecode (Utf8.encode (spaced part))

/-- The text of those bytes; what is broken in them shows as replacements. -/
def formText (part : List Char) : List Char := Utf8.decodeLossy (formBytes part)

/-- The pair that a piece of a query states. Without an equals sign its value is empty. -/
def statedPair (piece : List Char) : List Char × List Char :=
  (formText (splitAt? '=' piece).1, formText ((splitAt? '=' piece).2.getD []))

/-- The pairs that a query states, in their order. Empty pieces state none. -/
def statedPairs (query : List Char) : List (List Char × List Char) :=
  ((fields (· == '&') query).filter fun piece => !piece.isEmpty).map statedPair

/-- A byte that is no percent sign stands for itself. -/
theorem percentDecode_cons {byte : UInt8} (plain : byte ≠ 0x25) (rest : List UInt8) :
    percentDecode (byte :: rest) = byte :: percentDecode rest := by
  match rest with
  | [] => rfl
  | [_] => rfl
  | _ :: _ :: _ => rw [percentDecode, if_neg plain]

/-- A capital hexadecimal digit is read as its value. It is plain ASCII, and a form shows it as it
is. -/
theorem hexByte?_capitalHex (n : Nat) (digit : n < 16) :
    hexByte? (UInt8.ofNat (capitalHex n).toNat) = some n ∧ (capitalHex n).toNat < 0x80 ∧
      isFormChar (capitalHex n) = true := by
  revert n
  decide

/-- A character of ASCII is one byte, with the number of its code point. -/
theorem encodeChar_of_ascii {c : Char} (ascii : c.toNat < 0x80) :
    Utf8.encodeChar c = [UInt8.ofNat c.toNat] := by
  simp [Utf8.encodeChar, Utf8.encodePoint, ascii]

/-- A character other than the plus sign stays as it is where plus signs are read as spaces. -/
theorem spaced_of_ne {c : Char} (other : c ≠ '+') (part : List Char) :
    spaced (c :: part) = c :: spaced part := by
  simp [spaced, other]

/-- A percent form is read as its byte, whatever follows it. -/
theorem formBytes_percentByte (byte : UInt8) (part : List Char) :
    formBytes (percentByte byte ++ part) = byte :: formBytes part := by
  have bound := byte.toNat_lt
  obtain ⟨high, highAscii, highForm⟩ := hexByte?_capitalHex (byte.toNat / 16) (by omega)
  obtain ⟨low, lowAscii, lowForm⟩ := hexByte?_capitalHex (byte.toNat % 16) (by omega)
  have noPlus {c : Char} (form : isFormChar c = true) : c ≠ '+' := by
    rintro rfl
    cases form
  have joined : UInt8.ofNat (byte.toNat / 16 * 16 + byte.toNat % 16) = byte := by
    rw [Nat.div_add_mod']
    exact UInt8.ofNat_toNat
  have sign : UInt8.ofNat '%'.toNat = 0x25 := by decide
  simp only [formBytes, percentByte, List.cons_append, List.nil_append,
    spaced_of_ne (show '%' ≠ '+' by decide), spaced_of_ne (noPlus highForm),
    spaced_of_ne (noPlus lowForm), Utf8.encode, List.flatMap_cons, encodeChar_of_ascii highAscii,
    encodeChar_of_ascii lowAscii, encodeChar_of_ascii (show '%'.toNat < 0x80 by decide), sign,
    percentDecode, if_true, high, low, joined]

/-- The characters that a form shows as they are belong to ASCII. -/
theorem ascii_of_isFormChar {c : Char} (form : isFormChar c = true) : c.toNat < 0x80 := by
  simp only [isFormChar, Bool.or_eq_true, beq_iff_eq] at form
  rcases form with (((alphanumeric | rfl) | rfl) | rfl) | rfl
  · have classes : (decide (c.val ≥ 'A'.val ∧ c.val ≤ 'Z'.val) ||
        decide (c.val ≥ 'a'.val) && decide (c.val ≤ 'z'.val) ||
        decide (c.val ≥ '0'.val) && decide (c.val ≤ '9'.val)) = true := alphanumeric
    simp only [UInt32.le_iff_toNat_le, Bool.or_eq_true, Bool.and_eq_true,
      decide_eq_true_eq] at classes
    change c.val.toNat < 0x80
    have ends : 'Z'.val.toNat < 0x80 ∧ 'z'.val.toNat < 0x80 ∧ '9'.val.toNat < 0x80 := by decide
    omega
  all_goals decide

/-- A character that is written as it is reads as its byte. -/
theorem formBytes_of_isFormChar {c : Char} (form : isFormChar c = true) (part : List Char) :
    formBytes (c :: part) = Utf8.encodeChar c ++ formBytes part := by
  have ascii := ascii_of_isFormChar form
  have noPlus : c ≠ '+' := by
    rintro rfl
    cases form
  have noPercent : UInt8.ofNat c.toNat ≠ 0x25 := by
    intro same
    have number := congrArg UInt8.toNat same
    rw [UInt8.toNat_ofNat', show (0x25 : UInt8).toNat = '%'.toNat from rfl,
      Nat.mod_eq_of_lt (by omega)] at number
    rw [Char.toNat_inj.mp number] at form
    cases form
  simp only [formBytes, spaced_of_ne noPlus, Utf8.encode, List.flatMap_cons,
    encodeChar_of_ascii ascii, List.singleton_append, percentDecode_cons noPercent]

/-- Percent forms are read as their bytes, one after the other. -/
theorem formBytes_flatMap_percentByte (bytes : List UInt8) (part : List Char) :
    formBytes (bytes.flatMap percentByte ++ part) = bytes ++ formBytes part := by
  induction bytes with
  | nil => rfl
  | cons byte bytes inductionHypothesis =>
    rw [List.flatMap_cons, List.append_assoc, formBytes_percentByte, inductionHypothesis]
    rfl

/-- What is written of a text is read as the bytes of the text. -/
theorem formBytes_formEncode (text : List Char) : formBytes (formEncode text) = Utf8.encode text := by
  induction text with
  | nil => rfl
  | cons c text inductionHypothesis =>
    have whole : Utf8.encode (c :: text) = Utf8.encodeChar c ++ Utf8.encode text := List.flatMap_cons
    rw [formEncode, List.flatMap_cons, ← formEncode, whole, ← inductionHypothesis]
    split
    next form => exact formBytes_of_isFormChar form _
    next =>
      split
      next space =>
        subst space
        exact percentDecode_cons (by decide) _
      next => exact formBytes_flatMap_percentByte _ _

/-- What is written of a text is read as the text. -/
theorem formText_formEncode (text : List Char) : formText (formEncode text) = text := by
  have parts := Utf8.parts_encode_append text []
  rw [List.append_nil, show Utf8.parts [] = [] from rfl, List.append_nil] at parts
  rw [formText, formBytes_formEncode, Utf8.decodeLossy, parts, List.map_map]
  exact List.map_id text

/-- The characters that a part of a pair is written with. -/
theorem mem_formEncode {text : List Char} {c : Char} (member : c ∈ formEncode text) :
    isFormChar c = true ∨ c = '+' ∨ c = '%' := by
  obtain ⟨source, _, written⟩ := List.mem_flatMap.mp member
  split at written
  next form =>
    obtain rfl := List.mem_singleton.mp written
    exact .inl form
  next =>
    split at written
    next => exact .inr (.inl (List.mem_singleton.mp written))
    next =>
      obtain ⟨byte, _, inByte⟩ := List.mem_flatMap.mp written
      have bound := byte.toNat_lt
      simp only [percentByte, List.mem_cons, List.not_mem_nil, or_false] at inByte
      rcases inByte with rfl | rfl | rfl
      · exact .inr (.inr rfl)
      · exact .inl (hexByte?_capitalHex _ (by omega)).2.2
      · exact .inl (hexByte?_capitalHex _ (by omega)).2.2

/-- A mark with a meaning of its own is not written for a part of a pair. -/
theorem not_mem_formEncode {mark : Char} (apart : isFormChar mark = false ∧ mark ≠ '+' ∧ mark ≠ '%')
    (text : List Char) : mark ∉ formEncode text := by
  intro member
  rcases mem_formEncode member with form | plus | percent
  · rw [apart.1] at form
    cases form
  · exact apart.2.1 plus
  · exact apart.2.2 percent

/-- A pair that is written is read again, whatever characters its name and its value have. -/
theorem statedPairs_formPair (pair : List Char × List Char) : statedPairs (formPair pair) = [pair] := by
  have one : fields (· == '&') (formPair pair) = [formPair pair] := by
    refine fields_of_none fun c member => ?_
    rw [beq_eq_false_iff_ne]
    rintro rfl
    rcases List.mem_append.mp member with inName | inRest
    · exact not_mem_formEncode (by decide) _ inName
    · rcases List.mem_cons.mp inRest with same | inValue
      · cases same
      · exact not_mem_formEncode (by decide) _ inValue
  have parted : splitAt? '=' (formPair pair) = (formEncode pair.1, some (formEncode pair.2)) :=
    splitAt?_append (not_mem_formEncode (by decide) _) _
  have filled : (formPair pair).isEmpty = false := by simp [formPair]
  simp [statedPairs, one, filled, statedPair, parted, formText_formEncode]

/-- The pairs on both sides of an ampersand are the pairs of each side. -/
theorem statedPairs_append (query rest : List Char) :
    statedPairs (query ++ '&' :: rest) = statedPairs query ++ statedPairs rest := by
  rw [statedPairs, fields_append (by rfl), List.filter_append, List.map_append]
  rfl

/-- A query to which pairs are added states them after its own. -/
theorem statedPairs_addPairs (query : List Char) (pairs : List (List Char × List Char)) :
    statedPairs (addPairs query pairs) = statedPairs query ++ pairs := by
  induction pairs generalizing query with
  | nil => simp [addPairs]
  | cons pair rest inductionHypothesis =>
    rw [addPairs, inductionHypothesis]
    split
    next empty =>
      obtain rfl := List.isEmpty_iff.mp empty
      rw [statedPairs_formPair]
      rfl
    next => rw [statedPairs_append, statedPairs_formPair, List.append_assoc, List.singleton_append]

/-- An address without a query states the pairs that are added to it, and nothing else. -/
theorem statedPairs_withPairs {url : Url} (noQuery : url.query? = none)
    (pairs : List (List Char × List Char)) :
    statedPairs ((url.withPairs pairs).query?.getD []) = pairs := by
  cases pairs with
  | nil =>
    rw [show url.withPairs [] = url from rfl, noQuery]
    rfl
  | cons pair rest =>
    rw [show (url.withPairs (pair :: rest)).query? = some (addPairs (url.query?.getD []) (pair :: rest))
      from rfl, noQuery]
    exact statedPairs_addPairs [] (pair :: rest)

/-- It has a query once there are pairs, and none as long as there are not. -/
theorem withPairs_query_eq_none_iff {url : Url} (noQuery : url.query? = none)
    (pairs : List (List Char × List Char)) : (url.withPairs pairs).query? = none ↔ pairs = [] := by
  cases pairs with
  | nil => exact iff_of_true noQuery rfl
  | cons pair rest => simp [Url.withPairs]

example : statedPairs "a=1%2B1+%C3%A9&&b&c=d=e".toList =
    [("a".toList, "1+1 é".toList), ("b".toList, []), ("c".toList, "d=e".toList)] := by
  decide +kernel

end DashboardTools.Url
