import DashboardTools.Proofs.Text.Fields
import DashboardTools.Url.Parse

/-!
# Segments that stand

A segment stands in a path when it is read as it was written: it holds no separator, which would
part it, and it spells neither one dot nor two, which would leave it out or take back the segment
before it. Percent form keeps all three. Every segment of a path that was put in order stands, so
texts show up in such a path as segments of their own exactly when all of them stand.
-/

namespace DashboardTools.Url

open DashboardTools.Text

/-- What separates the segments in the path of a web address. -/
abbrev isSlash : Char → Bool := endsAuthority true

/-- A segment is read as it is written: nothing in it parts it, and it is no step within the
path. -/
structure Stands (segment : List Char) : Prop where
  noSlash : ∀ c ∈ segment, isSlash c = false
  notDot : isDot segment = false
  notTwoDots : isTwoDots segment = false

/-- Whether a segment stands can be decided by its characters. -/
instance (segment : List Char) : Decidable (Stands segment) :=
  decidable_of_iff ((segment.all fun c => !isSlash c) = true ∧ isDot segment = false ∧
      isTwoDots segment = false)
    ⟨fun ⟨noSlash, notDot, notTwoDots⟩ => ⟨by simpa using noSlash, notDot, notTwoDots⟩,
      fun ⟨noSlash, notDot, notTwoDots⟩ => ⟨by simpa using noSlash, notDot, notTwoDots⟩⟩

/-- Taking out the breaks of a text is taking out those of its parts. -/
theorem plain_append (before after : List Char) :
    plain (before ++ after) = plain before ++ plain after := List.filter_append ..

/-- A character that is left without the breaks was there before. -/
theorem mem_of_mem_plain {c : Char} {text : List Char} (member : c ∈ plain text) : c ∈ text :=
  (List.mem_filter.mp member).1

/-- Taking out breaks a second time takes out nothing, since none are left. -/
@[simp] theorem plain_plain (text : List Char) : plain (plain text) = plain text := by
  simp [plain]

/-- The first byte of a character is the one of a dot only for a dot. -/
theorem encodeChar_first (c : Char) :
    ∃ byte rest, Utf8.encodeChar c = byte :: rest ∧ (byte.toNat = 0x2E → c.toNat = 0x2E) := by
  have small : c.toNat < 0x110000 := by
    have valid := c.valid
    simp only [UInt32.isValidChar, Nat.isValidChar] at valid
    have same : c.val.toNat = c.toNat := rfl
    omega
  unfold Utf8.encodeChar Utf8.encodePoint
  split
  · exact ⟨_, _, rfl, fun dot => by simp at dot; omega⟩
  · split
    · exact ⟨_, _, rfl, fun dot => by simp at dot; omega⟩
    · split
      · exact ⟨_, _, rfl, fun dot => by simp at dot; omega⟩
      · exact ⟨_, _, rfl, fun dot => by simp at dot; omega⟩

/-- The digits that spell a dot, and digits that are separators. -/
theorem capitalHex_cases (n : Nat) (digit : n < 16) :
    (capitalHex n = '2' → n = 2) ∧ (capitalHex n = 'E' → n = 14) ∧ capitalHex n ≠ 'e' ∧
      isSlash (capitalHex n) = false := by
  revert n
  decide

/-- A byte in percent form spells a dot only when it is the byte of a dot. -/
theorem takeDot?_percentByte {byte : UInt8} (other : byte.toNat ≠ 0x2E) (rest : List Char) :
    takeDot? (percentByte byte ++ rest) = none := by
  have bound := byte.toNat_lt
  obtain ⟨high, _, _, _⟩ := capitalHex_cases (byte.toNat / 16) (by omega)
  obtain ⟨_, low, never, _⟩ := capitalHex_cases (byte.toNat % 16) (by omega)
  simp only [percentByte, List.cons_append, List.nil_append]
  unfold takeDot?
  split
  next same => simp at same
  next same =>
    have second := (List.cons.inj (List.cons.inj same).2).2
    exact absurd (List.cons.inj second).1 never
  next same =>
    have digits := (List.cons.inj same).2
    have first := high (List.cons.inj digits).1
    have second := low (List.cons.inj (List.cons.inj digits).2).1
    omega
  next => rfl

/-- A character in percent form does not begin with the spelling of a dot. -/
theorem takeDot?_percentChar {c : Char} (other : c ≠ '.') (rest : List Char) :
    takeDot? (percentChar c ++ rest) = none := by
  obtain ⟨byte, bytes, encoded, onlyDot⟩ := encodeChar_first c
  rw [percentChar, encoded, List.flatMap_cons, List.append_assoc]
  refine takeDot?_percentByte (fun dot => other ?_) _
  have same : c.toNat = '.'.toNat := onlyDot dot
  exact Char.toNat_inj.mp same

/-- There is nothing to encode in an empty text, whatever is to be hidden. -/
@[simp] theorem percentEncode_nil (hidden : EncodeSet) : percentEncode hidden [] = [] := rfl

/-- A character that is shown stays as it is, and the rest is encoded after it. -/
theorem percentEncode_of_shown {hidden : EncodeSet} {c : Char} (shown : isShown hidden c = true)
    (rest : List Char) : percentEncode hidden (c :: rest) = c :: percentEncode hidden rest := by
  simp [percentEncode, shown]

/-- A character that is not shown becomes the encoded bytes of itself, and the rest is encoded after
them. -/
theorem percentEncode_of_hidden {hidden : EncodeSet} {c : Char} (notShown : isShown hidden c = false)
    (rest : List Char) :
    percentEncode hidden (c :: rest) = percentChar c ++ percentEncode hidden rest := by
  simp [percentEncode, notShown]

/-- A dot can be taken from a text in one of three spellings: as itself, and encoded with either
case of its digit. -/
theorem takeDot?_eq_some {text rest : List Char} :
    takeDot? text = some rest ↔
      text = '.' :: rest ∨ text = '%' :: '2' :: 'e' :: rest ∨ text = '%' :: '2' :: 'E' :: rest := by
  constructor
  · intro taken
    unfold takeDot? at taken
    split at taken <;> simp_all
  · rintro (rfl | rfl | rfl) <;> rfl

/-- A character other than a percent sign at the front of a percent form was there before. -/
theorem percentEncode_eq_cons {text rest : List Char} {mark : Char} (other : mark ≠ '%')
    (same : percentEncode pathSet text = mark :: rest) :
    ∃ left, text = mark :: left ∧ rest = percentEncode pathSet left := by
  cases text with
  | nil => cases same
  | cons c left =>
    cases shown : isShown pathSet c with
    | true =>
      rw [percentEncode_of_shown shown] at same
      obtain ⟨rfl, rfl⟩ := List.cons.inj same
      exact ⟨left, rfl, rfl⟩
    | false =>
      obtain ⟨byte, bytes, encoded, _⟩ := encodeChar_first c
      rw [percentEncode_of_hidden shown, percentChar, encoded] at same
      simp only [List.flatMap_cons, percentByte, List.cons_append] at same
      exact absurd (List.cons.inj same).1.symm other

/-- Percent form neither adds a dot to the front of a segment nor takes one away. -/
theorem takeDot?_percentEncode (text : List Char) :
    takeDot? (percentEncode pathSet text) = (takeDot? text).map (percentEncode pathSet) := by
  ext rest
  simp only [Option.map_eq_some_iff, takeDot?_eq_some]
  constructor
  · intro spelled
    cases text with
    | nil => simp at spelled
    | cons c left =>
      cases shown : isShown pathSet c with
      | false =>
        -- The percent form of `c` itself would spell the dot.
        have hidden : c ≠ '.' := by
          rintro rfl
          exact absurd shown (by decide)
        rw [← takeDot?_eq_some, percentEncode_of_hidden shown, takeDot?_percentChar hidden] at spelled
        cases spelled
      | true =>
        rw [percentEncode_of_shown shown] at spelled
        rcases spelled with same | same | same
        · obtain ⟨rfl, rfl⟩ := List.cons.inj same
          exact ⟨left, .inl rfl, rfl⟩
        · obtain ⟨rfl, after⟩ := List.cons.inj same
          obtain ⟨next, rfl, later⟩ := percentEncode_eq_cons (by decide) after
          obtain ⟨more, rfl, rfl⟩ := percentEncode_eq_cons (by decide) later.symm
          exact ⟨more, .inr (.inl rfl), rfl⟩
        · obtain ⟨rfl, after⟩ := List.cons.inj same
          obtain ⟨next, rfl, later⟩ := percentEncode_eq_cons (by decide) after
          obtain ⟨more, rfl, rfl⟩ := percentEncode_eq_cons (by decide) later.symm
          exact ⟨more, .inr (.inr rfl), rfl⟩
  · rintro ⟨more, rfl | rfl | rfl, rfl⟩
    · exact .inl (percentEncode_of_shown (by decide) more)
    · exact .inr (.inl rfl)
    · exact .inr (.inr rfl)

/-- Encoding leaves nothing only of an empty text, since every character is written as something. -/
theorem percentEncode_eq_nil {hidden : EncodeSet} {text : List Char} :
    percentEncode hidden text = [] ↔ text = [] := by
  cases text with
  | nil => simp
  | cons c rest =>
    cases shown : isShown hidden c with
    | true => simp [percentEncode_of_shown shown]
    | false =>
      obtain ⟨byte, bytes, encoded, _⟩ := encodeChar_first c
      simp [percentEncode_of_hidden shown, percentChar, encoded, percentByte]

/-- Encoding does not change whether a segment is one dot. -/
theorem isDot_percentEncode (text : List Char) :
    isDot (percentEncode pathSet text) = isDot text := by
  unfold isDot
  rw [takeDot?_percentEncode]
  cases taken : takeDot? text with
  | none => rfl
  | some rest =>
    have empty : percentEncode pathSet rest = [] ↔ rest = [] := percentEncode_eq_nil
    rw [Option.map_some, Bool.eq_iff_iff]
    simp [empty]

/-- Encoding does not change whether a segment is two dots. -/
theorem isTwoDots_percentEncode (text : List Char) :
    isTwoDots (percentEncode pathSet text) = isTwoDots text := by
  unfold isTwoDots
  rw [takeDot?_percentEncode]
  cases takeDot? text with
  | none => rfl
  | some rest => exact isDot_percentEncode rest

/-- The separators in a percent form are those of the text. -/
theorem mem_percentEncode_of_isSlash {text : List Char} {c : Char} (slash : isSlash c = true) :
    c ∈ percentEncode pathSet text ↔ c ∈ text := by
  have shownSlash : isShown pathSet c = true := by
    have either : c = '/' ∨ c = '\\' := by simpa [isSlash, endsAuthority] using slash
    rcases either with rfl | rfl <;> decide
  have notInBytes (bytes : List UInt8) : c ∉ bytes.flatMap percentByte := by
    intro member
    obtain ⟨byte, _, digit⟩ := List.mem_flatMap.mp member
    have bound := byte.toNat_lt
    have high := (capitalHex_cases (byte.toNat / 16) (by omega)).2.2.2
    have low := (capitalHex_cases (byte.toNat % 16) (by omega)).2.2.2
    simp only [percentByte, List.mem_cons, List.not_mem_nil, or_false] at digit
    rcases digit with rfl | rfl | rfl
    · exact absurd slash (by decide)
    · simp [high] at slash
    · simp [low] at slash
  induction text with
  | nil => simp
  | cons d rest inductionHypothesis =>
    cases shown : isShown pathSet d with
    | true => simp [percentEncode_of_shown shown, inductionHypothesis]
    | false =>
      have other : c ≠ d := by
        rintro rfl
        simp [shownSlash] at shown
      rw [percentEncode_of_hidden shown]
      simp only [List.mem_append, List.mem_cons, inductionHypothesis, other, false_or,
        or_iff_right_iff_imp]
      exact fun member => absurd member (notInBytes _)

/-- Encoding a segment neither makes a slash nor hides one. -/
theorem noSlash_percentEncode {text : List Char} :
    (∀ c ∈ percentEncode pathSet text, isSlash c = false) ↔ ∀ c ∈ text, isSlash c = false := by
  constructor
  · intro none c member
    cases slash : isSlash c with
    | false => rfl
    | true => rw [← slash, none c ((mem_percentEncode_of_isSlash slash).mpr member)]
  · intro none c member
    cases slash : isSlash c with
    | false => rfl
    | true => rw [← slash, none c ((mem_percentEncode_of_isSlash slash).mp member)]

/-- A segment stands in percent form exactly when it stands as it is. -/
theorem stands_percentEncode {text : List Char} :
    Stands (percentEncode pathSet text) ↔ Stands text := by
  constructor
  · rintro ⟨noSlash, notDot, notTwoDots⟩
    rw [isDot_percentEncode] at notDot
    rw [isTwoDots_percentEncode] at notTwoDots
    exact ⟨noSlash_percentEncode.mp noSlash, notDot, notTwoDots⟩
  · rintro ⟨noSlash, notDot, notTwoDots⟩
    rw [← isDot_percentEncode] at notDot
    rw [← isTwoDots_percentEncode] at notTwoDots
    exact ⟨noSlash_percentEncode.mpr noSlash, notDot, notTwoDots⟩

namespace OrderedPath

/-- The path after more segments none of which is the last. -/
def addFront (path : OrderedPath) (pieces : List (List Char)) : OrderedPath :=
  pieces.foldl (fun path piece => path.add false piece false) path

/-- Pieces are added to the front of a path one after the other. -/
theorem addFront_cons (path : OrderedPath) (piece : List Char) (rest : List (List Char)) :
    path.addFront (piece :: rest) = (path.add false piece false).addFront rest := rfl

/-- All segments of the path stand, so reading the path again gives the same segments. -/
def Stands (path : OrderedPath) : Prop := ∀ segment ∈ path.segments, Url.Stands segment

/-- Pieces added with more to come are added as front pieces. Only the very last one closes the
path. -/
theorem addAll_append (path : OrderedPath) (front : List (List Char)) {back : List (List Char)}
    (more : back ≠ []) :
    path.addAll false (front ++ back) = (path.addFront front).addAll false back := by
  induction front generalizing path with
  | nil => rfl
  | cons piece rest inductionHypothesis =>
    have goesOn : (rest ++ back).isEmpty = false := by simp [more]
    rw [List.cons_append, addAll, goesOn, inductionHypothesis]
    rfl

/-- A segment that stands is added in percent form, and no segment before it is taken away. -/
theorem add_of_stands {piece : List Char} (stands : Url.Stands (plain piece)) (path : OrderedPath)
    (isLast : Bool) :
    path.add false piece isLast =
      { path with segments := percentEncode pathSet (plain piece) :: path.segments } := by
  simp [add, stands.notDot, stands.notTwoDots]

/-- Segments that stand are added in percent form, in their order. -/
theorem addFront_of_stands {pieces : List (List Char)}
    (stand : ∀ piece ∈ pieces, Url.Stands (plain piece)) (path : OrderedPath) :
    (path.addFront pieces).segments.reverse =
      path.segments.reverse ++ pieces.map fun piece => percentEncode pathSet (plain piece) := by
  induction pieces generalizing path with
  | nil => simp [addFront]
  | cons piece rest inductionHypothesis =>
    have later := inductionHypothesis (fun later member => stand later (by simp [member]))
      (path.add false piece false)
    rw [add_of_stands (stand piece (by simp))] at later
    rw [addFront_cons, add_of_stands (stand piece (by simp)), later]
    simp

/-- It makes no difference to a segment that stands whether it is the last. -/
theorem addAll_of_stands {pieces : List (List Char)}
    (stand : ∀ piece ∈ pieces, Url.Stands (plain piece)) (path : OrderedPath) :
    path.addAll false pieces = path.addFront pieces := by
  induction pieces generalizing path with
  | nil => rfl
  | cons piece rest inductionHypothesis =>
    rw [addAll, inductionHypothesis (fun later member => stand later (by simp [member])),
      addFront_cons, add_of_stands (stand piece (by simp)), add_of_stands (stand piece (by simp))]

/-- An empty segment stands, since nothing in it can be read as anything else. -/
theorem stands_nil : Url.Stands [] := ⟨by simp, rfl, rfl⟩

/-- A segment after one more piece is the empty one of a slash at the end, was there before, or is
the piece itself, which then spells neither one dot nor two. -/
theorem mem_add {path : OrderedPath} {piece segment : List Char} {isLast : Bool}
    (member : segment ∈ (path.add false piece isLast).segments) :
    segment = [] ∨ segment ∈ path.segments ∨
      (segment = percentEncode pathSet (plain piece) ∧ isDot (plain piece) = false ∧
        isTwoDots (plain piece) = false) := by
  have slash (before : List (List Char))
      (there : segment ∈ (if isLast then [[]] else []) ++ before) : segment = [] ∨ segment ∈ before := by
    cases isLast with
    | true => simpa using there
    | false => exact .inr (by simpa using there)
  have kept (there : segment ∈ takeBack path.segments) : segment ∈ path.segments := by
    unfold takeBack at there
    split at there
    · exact absurd there List.not_mem_nil
    · split at there
      · simp_all
      · simp_all
  unfold OrderedPath.add at member
  dsimp only at member
  split at member
  · rcases slash _ member with empty | before
    · exact .inl empty
    · exact .inr (.inl (kept before))
  next notTwoDots =>
    split at member
    · rcases slash _ member with empty | before
      · exact .inl empty
      · exact .inr (.inl before)
    next notDot =>
      simp only [Bool.false_and, Bool.false_eq_true, if_false] at member
      rcases List.mem_cons.mp member with itself | before
      · exact .inr (.inr ⟨itself, by simpa using notDot, by simpa using notTwoDots⟩)
      · exact .inr (.inl before)

/-- One more piece without separators leaves a path whose segments stand. -/
theorem Stands.add {path : OrderedPath} (stands : path.Stands) {piece : List Char}
    (noSlash : ∀ c ∈ piece, isSlash c = false) (isLast : Bool) :
    (path.add false piece isLast).Stands := by
  intro segment member
  rcases mem_add member with rfl | before | ⟨rfl, notDot, notTwoDots⟩
  · exact stands_nil
  · exact stands segment before
  · have plainNoSlash : ∀ c ∈ plain piece, isSlash c = false :=
      fun c inside => noSlash c (mem_of_mem_plain inside)
    exact stands_percentEncode.mpr ⟨plainNoSlash, notDot, notTwoDots⟩

/-- Adding pieces without a slash to a path that stands gives a path that stands. -/
theorem Stands.addFront {path : OrderedPath} (stands : path.Stands) {pieces : List (List Char)}
    (noSlash : ∀ piece ∈ pieces, ∀ c ∈ piece, isSlash c = false) :
    (path.addFront pieces).Stands := by
  induction pieces generalizing path with
  | nil => exact stands
  | cons piece rest inductionHypothesis =>
    exact inductionHypothesis (stands.add (noSlash piece (by simp)) false)
      fun later member => noSlash later (by simp [member])

/-- Whatever pieces are added, the segments of the path stand. -/
theorem Stands.addAll {path : OrderedPath} (stands : path.Stands) {pieces : List (List Char)}
    (noSlash : ∀ piece ∈ pieces, ∀ c ∈ piece, isSlash c = false) :
    (path.addAll false pieces).Stands := by
  induction pieces generalizing path with
  | nil => exact stands
  | cons piece rest inductionHypothesis =>
    exact inductionHypothesis (stands.add (noSlash piece (by simp)) rest.isEmpty)
      fun later member => noSlash later (by simp [member])

/-- Texts that stand are pieces as they are, since no slash parts them. -/
theorem flatMap_fields_of_stands {texts : List (List Char)} (stand : ∀ text ∈ texts, Url.Stands text) :
    texts.flatMap (fields isSlash) = texts := by
  induction texts with
  | nil => rfl
  | cons text rest inductionHypothesis =>
    rw [List.flatMap_cons, fields_of_none (stand text (by simp)).noSlash,
      inductionHypothesis fun later member => stand later (by simp [member])]
    rfl

/-- The pieces of texts hold no separators, because the texts were cut at every one. -/
theorem noSlash_of_mem_pieces {texts : List (List Char)} :
    ∀ piece ∈ texts.flatMap (fields isSlash), ∀ c ∈ piece, isSlash c = false := by
  intro piece isPiece
  obtain ⟨whole, _, ofWhole⟩ := List.mem_flatMap.mp isPiece
  exact not_inClass_of_mem_fields ofWhole

/-- Texts that are added to a path show up as its next segments exactly when all of them stand. -/
theorem addAll_texts_iff {path : OrderedPath} (stands : path.Stands) {texts : List (List Char)}
    (counted : ∀ text ∈ texts, plain text = text) :
    (path.addAll false (texts.flatMap (fields isSlash))).segments.reverse =
        path.segments.reverse ++ texts.map (percentEncode pathSet) ↔
      ∀ text ∈ texts, Url.Stands text := by
  constructor
  · intro same text member
    have ordered := stands.addAll (@noSlash_of_mem_pieces texts)
    refine stands_percentEncode.mp (ordered _ (List.mem_reverse.mp ?_))
    rw [same]
    exact List.mem_append_right _ (List.mem_map.mpr ⟨text, member, rfl⟩)
  · intro stand
    have plainStand : ∀ text ∈ texts, Url.Stands (plain text) := by
      intro text member
      rw [counted text member]
      exact stand text member
    rw [flatMap_fields_of_stands stand, addAll_of_stands plainStand, addFront_of_stands plainStand,
      List.append_cancel_left_eq]
    exact List.map_congr_left fun text member => congrArg _ (counted text member)

end OrderedPath

end DashboardTools.Url
