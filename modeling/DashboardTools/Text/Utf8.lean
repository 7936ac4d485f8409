/-!
# UTF-8

A character is written as one to four bytes. Reading a byte sequence yields its parts from left
to right: a character, or the longest beginning that could have become one and did not. The
strict reading refuses a sequence with a broken part; the forgiving one shows each broken part
as one replacement character. Surrogates, overlong forms and values past the last code point
are broken, because the second byte's bounds exclude them.
-/

namespace DashboardTools.Text.Utf8

/-- The bytes of one character, as numbers: one to four of them, by the size of the code point. -/
def encodePoint (n : Nat) : List Nat :=
  if n < 0x80 then [n]
  else if n < 0x800 then [0xC0 + n / 64, 0x80 + n % 64]
  else if n < 0x10000 then [0xE0 + n / 4096, 0x80 + n / 64 % 64, 0x80 + n % 64]
  else [0xF0 + n / 262144, 0x80 + n / 4096 % 64, 0x80 + n / 64 % 64, 0x80 + n % 64]

/-- The bytes of one character, as they stand in a file or in a body. -/
def encodeChar (c : Char) : List UInt8 := (encodePoint c.toNat).map .ofNat

/-- The bytes of a text, character by character and without a mark at the beginning. -/
def encode (text : List Char) : List UInt8 := text.flatMap encodeChar

/-- Whether a byte may follow this first byte directly. Forms that are too long and surrogates are
ruled out here. -/
def mayFollow (first second : Nat) : Bool :=
  decide ((if first = 0xE0 then 0xA0 else if first = 0xF0 then 0x90 else 0x80) ≤ second) &&
    decide (second ≤ (if first = 0xED then 0x9F else if first = 0xF4 then 0x8F else 0xBF))

/-- Whether a byte continues a character after its second byte. -/
def continues (byte : Nat) : Bool := decide (0x80 ≤ byte) && decide (byte ≤ 0xBF)

/-- The part at the start of a byte sequence and how many bytes it takes; `none` stands for a
broken part. -/
def firstPart : List Nat → Option Char × Nat
  | [] => (none, 0)
  | [a] => if a < 0x80 then (some (Char.ofNat a), 1) else (none, 1)
  | a :: b :: rest =>
    if a < 0x80 then (some (Char.ofNat a), 1)
    else if a < 0xC2 ∨ 0xF5 ≤ a ∨ mayFollow a b = false then (none, 1)
    else if a < 0xE0 then (some (Char.ofNat ((a - 0xC0) * 64 + (b - 0x80))), 2)
    else
      match rest with
      | [] => (none, 2)
      | c :: rest =>
        if continues c = false then (none, 2)
        else if a < 0xF0 then
          (some (Char.ofNat ((a - 0xE0) * 4096 + (b - 0x80) * 64 + (c - 0x80))), 3)
        else
          match rest with
          | [] => (none, 3)
          | d :: _ =>
            if continues d = false then (none, 3)
            else
              (some (Char.ofNat
                ((a - 0xF0) * 262144 + (b - 0x80) * 4096 + (c - 0x80) * 64 + (d - 0x80))), 4)

/-- The parts of a byte sequence whose first `skip` bytes belong to a part already read. -/
def partsAfter : (skip : Nat) → List Nat → List (Option Char)
  | _, [] => []
  | skip + 1, _ :: rest => partsAfter skip rest
  | 0, byte :: rest =>
    let part := firstPart (byte :: rest)
    part.1 :: partsAfter (part.2 - 1) rest

/-- The parts of a byte sequence, from left to right. -/
def parts (bytes : List UInt8) : List (Option Char) := partsAfter 0 (bytes.map (·.toNat))

/-- The characters of parts none of which is broken. One broken part leaves no text at all. -/
def allWhole? : List (Option Char) → Option (List Char)
  | [] => some []
  | none :: _ => none
  | some c :: rest => (allWhole? rest).map (c :: ·)

/-- The text of a byte sequence without broken parts. It is the strict reader; what it reads can be
written back. -/
def decode? (bytes : List UInt8) : Option (List Char) := allWhole? (parts bytes)

/-- The text of a byte sequence, each broken part shown as a replacement character. -/
def decodeLossy (bytes : List UInt8) : List Char := (parts bytes).map (·.getD '\uFFFD')

/-- Bytes that belong to a character already read are skipped without a trace. -/
theorem partsAfter_append (done rest : List Nat) :
    partsAfter done.length (done ++ rest) = partsAfter 0 rest := by
  induction done with
  | nil => rfl
  | cons byte done inductionHypothesis => simpa [partsAfter] using inductionHypothesis

/-- The bytes of a character are one whole part, whatever follows them. -/
theorem firstPart_encodePoint_append {n : Nat} (rest : List Nat)
    (valid : n < 0xD800 ∨ 0xDFFF < n ∧ n < 0x110000) :
    firstPart (encodePoint n ++ rest) = (some (Char.ofNat n), (encodePoint n).length) := by
  unfold encodePoint
  split
  next small => cases rest <;> simp [firstPart, small]
  split
  next small two =>
    have joins : mayFollow (0xC0 + n / 64) (0x80 + n % 64) = true := by
      simp only [mayFollow, Bool.and_eq_true, decide_eq_true_eq]
      constructor <;> (repeat' split) <;> omega
    have value : (0xC0 + n / 64 - 0xC0) * 64 + (0x80 + n % 64 - 0x80) = n := by omega
    simp only [List.cons_append, List.nil_append, firstPart, joins, value]
    rw [if_neg (by omega), if_neg (by simp only [Bool.true_eq_false, or_false]; omega),
      if_pos (by omega)]
    rfl
  split
  next small two three =>
    have joins : mayFollow (0xE0 + n / 4096) (0x80 + n / 64 % 64) = true := by
      simp only [mayFollow, Bool.and_eq_true, decide_eq_true_eq]
      constructor <;> (repeat' split) <;> omega
    have goes : continues (0x80 + n % 64) = true := by
      simp only [continues, Bool.and_eq_true, decide_eq_true_eq]; omega
    have value : (0xE0 + n / 4096 - 0xE0) * 4096 + (0x80 + n / 64 % 64 - 0x80) * 64 +
        (0x80 + n % 64 - 0x80) = n := by omega
    simp only [List.cons_append, List.nil_append, firstPart, joins, goes, value]
    rw [if_neg (by omega), if_neg (by simp only [Bool.true_eq_false, or_false]; omega),
      if_neg (by omega), if_neg (by simp), if_pos (by omega)]
    rfl
  next small two three =>
    have joins : mayFollow (0xF0 + n / 262144) (0x80 + n / 4096 % 64) = true := by
      simp only [mayFollow, Bool.and_eq_true, decide_eq_true_eq]
      constructor <;> (repeat' split) <;> omega
    have goesOn : continues (0x80 + n / 64 % 64) = true := by
      simp only [continues, Bool.and_eq_true, decide_eq_true_eq]; omega
    have goes : continues (0x80 + n % 64) = true := by
      simp only [continues, Bool.and_eq_true, decide_eq_true_eq]; omega
    have value : (0xF0 + n / 262144 - 0xF0) * 262144 + (0x80 + n / 4096 % 64 - 0x80) * 4096 +
        (0x80 + n / 64 % 64 - 0x80) * 64 + (0x80 + n % 64 - 0x80) = n := by omega
    simp only [List.cons_append, List.nil_append, firstPart, joins, goesOn, goes, value]
    rw [if_neg (by omega), if_neg (by simp only [Bool.true_eq_false, or_false]; omega),
      if_neg (by omega), if_neg (by simp), if_neg (by omega), if_neg (by simp)]
    rfl

/-- The numbers that encode a code point are bytes, so nothing is lost by storing them as such. -/
theorem encodePoint_lt {n : Nat} (valid : n < 0x110000) :
    ∀ byte ∈ encodePoint n, byte < 256 := by
  intro byte member
  unfold encodePoint at member
  (repeat' split at member) <;>
    simp only [List.mem_cons, List.not_mem_nil, or_false] at member <;> omega

/-- Every code point is encoded in at least one byte. -/
theorem encodePoint_ne_nil (n : Nat) : encodePoint n ≠ [] := by
  unfold encodePoint
  (repeat' split) <;> exact List.cons_ne_nil _ _

/-- A character's code point is no surrogate and not past the last one. -/
theorem char_valid (c : Char) : c.toNat < 0xD800 ∨ 0xDFFF < c.toNat ∧ c.toNat < 0x110000 := by
  exact c.valid

/-- The bytes of an encoded character are the numbers that encode its code point. -/
theorem toNat_encodeChar (c : Char) : (encodeChar c).map (·.toNat) = encodePoint c.toNat := by
  rw [encodeChar, List.map_map]
  conv => rhs; rw [← List.map_id (encodePoint c.toNat)]
  refine List.map_congr_left fun byte member => ?_
  have small := encodePoint_lt (by have := char_valid c; omega) byte member
  simp only [Function.comp_apply, UInt8.toNat_ofNat', id_eq]
  omega

/-- Reading the bytes of one character yields that character and nothing else. -/
theorem parts_encodeChar_append (c : Char) (rest : List UInt8) :
    parts (encodeChar c ++ rest) = some c :: parts rest := by
  rw [parts, List.map_append, toNat_encodeChar]
  have first := firstPart_encodePoint_append (rest.map (·.toNat)) (char_valid c)
  cases bytes : encodePoint c.toNat with
  | nil => exact absurd bytes (encodePoint_ne_nil _)
  | cons byte done =>
    rw [bytes] at first
    simp only [List.cons_append] at first ⊢
    rw [partsAfter, first]
    simp only [List.length_cons, Nat.add_sub_cancel, partsAfter_append, Char.ofNat_toNat, parts]

/-- Reading what was written yields the characters, each whole, whatever bytes follow them. -/
theorem parts_encode_append (text : List Char) (rest : List UInt8) :
    parts (encode text ++ rest) = text.map some ++ parts rest := by
  induction text with
  | nil => rfl
  | cons c text inductionHypothesis =>
    have step := parts_encodeChar_append c (encode text ++ rest)
    rw [inductionHypothesis] at step
    simpa [encode, List.append_assoc] using step

/-- Parts none of which is broken put together are their characters. -/
@[simp] theorem allWhole?_map_some (text : List Char) :
    allWhole? (text.map some) = some text := by
  induction text with
  | nil => rfl
  | cons c text inductionHypothesis => simp [allWhole?, inductionHypothesis]

/-- Reading strictly what was written gives the text back, so no two texts have the same bytes. -/
@[simp] theorem decode?_encode (text : List Char) : decode? (encode text) = some text := by
  have whole := parts_encode_append text []
  rw [List.append_nil, show parts [] = [] from rfl, List.append_nil] at whole
  rw [decode?, whole, allWhole?_map_some]

end DashboardTools.Text.Utf8
