/-!
# Punycode

A label with characters beyond ASCII is written with ASCII letters, digits and hyphens: first its
ASCII characters, then the others in increasing order, each as the distance that a counter over
code points and positions covers to reach it, in digits whose weights adapt to the distances.
Reading moves the counter the same way.
-/

namespace DashboardTools.Url.Punycode

/-- The digit with this value: letters, then decimal digits. There are 36 of them. -/
def digitChar (n : Nat) : Char := if n < 26 then Char.ofNat (0x61 + n) else Char.ofNat (0x16 + n)

/-- The threshold of the digit at a position, a multiple of 36. -/
def threshold (position bias : Nat) : Nat := max 1 (min 26 (position - bias))

/-- A distance in digits, the digits from a position on. The last digit is the one below its
threshold. -/
def digits (bias position distance : Nat) : List Char :=
  let limit := threshold position bias
  if distance < limit then [digitChar distance]
  else
    digitChar (limit + (distance - limit) % (36 - limit)) ::
      digits bias (position + 36) ((distance - limit) / (36 - limit))
termination_by distance
decreasing_by
  have low : 1 ≤ limit := Nat.le_max_left ..
  exact Nat.lt_of_le_of_lt (Nat.div_le_self ..) (by omega)

/-- Divides by 35 until the value is small; counts 36 for each division. -/
def settle (bias distance : Nat) : Nat :=
  if distance ≤ 455 then bias + 36 * distance / (distance + 38)
  else settle (bias + 36) (distance / 35)
termination_by distance
decreasing_by omega

/-- The bias after a distance; `written` counts the characters that are placed by then. -/
def adapt (distance written : Nat) (first : Bool) : Nat :=
  let halved := if first then distance / 700 else distance / 2
  settle 0 (halved + halved / written)

/-- How far the encoding has come, after the characters with smaller code points were placed. -/
structure Progress where
  /-- The distance since the last character placed. -/
  distance : Nat
  bias : Nat
  /-- How many characters are placed. -/
  placed : Nat
  first : Bool
  written : List Char

/-- Passes one character of the label while the code point `point` is placed. -/
def Progress.pass (point : Nat) (progress : Progress) (c : Nat) : Progress :=
  if c < point then { progress with distance := progress.distance + 1 }
  else if c = point then
    { distance := 0
      bias := adapt progress.distance (progress.placed + 1) progress.first
      placed := progress.placed + 1
      first := false
      written := progress.written ++ digits progress.bias 36 progress.distance }
  else progress

/-- Places the code points in turn; `next` is the one after the last that was placed. -/
def place (label : List Nat) (next : Nat) (progress : Progress) : List Nat → Progress
  | [] => progress
  | point :: rest =>
    let started :=
      { progress with
        distance := progress.distance + (point - next) * (progress.placed + 1) }
    let passed := label.foldl (Progress.pass point) started
    place label (point + 1) { passed with distance := passed.distance + 1 } rest

/-- The code points beyond ASCII, in increasing order and each once. -/
def beyondAscii (label : List Nat) : List Nat :=
  ((label.filter fun c => decide (0x80 ≤ c)).mergeSort fun a b => decide (a ≤ b)).eraseDups

/-- The written form of a label: its characters of ASCII, and then where the others are to be put
in. -/
def encode (label : List Char) : List Char :=
  let plain := label.filter fun c => decide (c.toNat < 0x80)
  let start : List Char := if plain.isEmpty then [] else plain ++ ['-']
  let points := label.map (·.toNat)
  (place points 0x80 ⟨0, 72, plain.length, true, start⟩ (beyondAscii points)).written

/-- The value of a digit. Only small letters and decimal digits are digits here. -/
def digitOf? (c : Char) : Option Nat :=
  if 'a' ≤ c ∧ c ≤ 'z' then some (c.toNat - 'a'.toNat)
  else if c.isDigit then some (c.toNat - '0'.toNat + 26)
  else none

/-- The distance that starts a text, in units of `weight` and with its digits from `position` on;
answers the text after it too. -/
def takeDistance? (bias position weight : Nat) : List Char → Option (Nat × List Char)
  | [] => none
  | c :: rest => do
    let digit ← digitOf? c
    let limit := threshold position bias
    if digit < limit then some (digit * weight, rest)
    else
      let (distance, rest) ← takeDistance? bias (position + 36) (weight * (36 - limit)) rest
      some (digit * weight + distance, rest)

/-- Reading a distance leaves a shorter text, so reading all distances comes to an end. -/
theorem takeDistance?_length {bias position weight distance : Nat} {text rest : List Char}
    (taken : takeDistance? bias position weight text = some (distance, rest)) :
    rest.length < text.length := by
  induction text generalizing position weight distance rest with
  | nil => simp [takeDistance?] at taken
  | cons c text inductionHypothesis =>
    simp only [takeDistance?, Option.bind_eq_bind, Option.bind_eq_some_iff] at taken
    obtain ⟨digit, _, taken⟩ := taken
    split at taken
    · simp only [Option.some.injEq, Prod.mk.injEq] at taken
      simp [taken.2]
    · obtain ⟨⟨further, after⟩, read, taken⟩ := Option.bind_eq_some_iff.1 taken
      simp only [Option.some.injEq, Prod.mk.injEq] at taken
      have shorter := inductionHypothesis read
      rw [taken.2] at shorter
      exact Nat.lt_succ_of_lt shorter

/-- A code point as a character, if it is one. -/
def charOf? (point : Nat) : Option Char :=
  if (Char.ofNat point).toNat = point then some (Char.ofNat point) else none

/-- Puts the characters in their places that a text of distances describes. `point` and `index`
tell where the counter stands. -/
def unplace? (label : List Char) (point index bias : Nat) (first : Bool) (text : List Char) :
    Option (List Char) :=
  if text.isEmpty then some label
  else
    match _taken : takeDistance? bias 36 1 text with
    | none => none
    | some (distance, rest) =>
      let places := label.length + 1
      let next := point + (index + distance) / places
      let place := (index + distance) % places
      match charOf? next with
      | none => none
      | some c =>
        unplace? (label.take place ++ c :: label.drop place) next (place + 1)
          (adapt distance places first) false rest
termination_by text.length
decreasing_by exact takeDistance?_length _taken

/-- The label with a written form, if it has one. The last hyphen parts the characters of ASCII from
the distances. -/
def decode? (written : List Char) : Option (List Char) :=
  let (plain, distances) :=
    match written.reverse.dropWhile (· != '-') with
    | [] => ([], written)
    | _ :: plain => (plain.reverse, (written.reverse.takeWhile (· != '-')).reverse)
  unplace? plain 0x80 0 72 true distances

end DashboardTools.Url.Punycode
