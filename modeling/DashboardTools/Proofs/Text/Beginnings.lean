import DashboardTools.Text.Utf8

/-!
# Beginnings of written texts

Bytes that break off in the middle of a text's encoding are read, if at all, as a beginning of that
text: whoever reads strictly accepts a cut between two characters and no cut within one. Nothing is
assumed about where the bytes break off.
-/

namespace DashboardTools.Text.Utf8

/-- A character's bytes that break off are a broken part. A lone first byte cannot stand for itself,
and behind it the reader asks for as many bytes as the first one announces. -/
theorem firstPart_of_broken {n : Nat} {cut : List Nat} (begins : cut <+: encodePoint n)
    (short : cut ≠ encodePoint n) (filled : cut ≠ []) : (firstPart cut).1 = none := by
  obtain ⟨missing, whole⟩ := begins
  have some : missing ≠ [] := by
    rintro rfl
    exact short (by simpa using whole)
  match cut, missing, filled, some with
  | [a], b :: missing, _, _ =>
    have first : ¬ a < 0x80 := by
      unfold encodePoint at whole
      (repeat' split at whole) <;> simp at whole <;> omega
    simp [firstPart, first]
  | [a, b], c :: missing, _, _ =>
    have first : ¬ a < 0x80 ∧ ¬ a < 0xE0 := by
      unfold encodePoint at whole
      (repeat' split at whole) <;> simp at whole <;> omega
    simp only [firstPart, first.1, first.2, if_false]
    split <;> rfl
  | [a, b, c], d :: missing, _, _ =>
    have first : ¬ a < 0x80 ∧ ¬ a < 0xE0 ∧ ¬ a < 0xF0 := by
      unfold encodePoint at whole
      (repeat' split at whole) <;> simp at whole
      omega
    simp only [firstPart, first.1, first.2.1, first.2.2, if_false]
    (repeat' split) <;> rfl
  | a :: b :: c :: d :: cut, e :: missing, _, _ =>
    unfold encodePoint at whole
    (repeat' split at whole) <;> simp at whole

/-- No text is read of a character's bytes that break off. -/
theorem decode?_of_broken {c : Char} {cut : List UInt8} (begins : cut <+: encodeChar c)
    (short : cut ≠ encodeChar c) (filled : cut ≠ []) : decode? cut = none := by
  have points : cut.map (·.toNat) <+: encodePoint c.toNat := by
    rw [← toNat_encodeChar]
    exact begins.map _
  have shortPoints : cut.map (·.toNat) ≠ encodePoint c.toNat := by
    rw [← toNat_encodeChar]
    intro same
    exact short ((List.map_inj_right fun _ _ => UInt8.toNat_inj.mp).mp same)
  have broken := firstPart_of_broken points shortPoints (by simpa using filled)
  cases cut with
  | nil => exact absurd rfl filled
  | cons byte rest =>
    rw [List.map_cons] at broken
    simp [decode?, parts, partsAfter, broken, allWhole?]

/-- What is read of bytes that begin a text's encoding is a beginning of the text, and no byte is
left over. The induction is on the text: the bytes end before its first character, within it or
behind it. -/
theorem beginning_of_decode? {text read : List Char} {cut : List UInt8}
    (begins : cut <+: encode text) (decoded : decode? cut = some read) :
    read <+: text ∧ cut = encode read := by
  induction text generalizing cut read with
  | nil =>
    obtain rfl : cut = [] := List.prefix_nil.mp begins
    obtain rfl : [] = read := Option.some.inj decoded
    exact ⟨List.prefix_rfl, rfl⟩
  | cons c text inductionHypothesis =>
    have whole : encode (c :: text) = encodeChar c ++ encode text := List.flatMap_cons
    rw [whole] at begins
    by_cases behind : encodeChar c <+: cut
    · obtain ⟨others, rfl⟩ := behind
      have step := parts_encodeChar_append c others
      rw [decode?, step, allWhole?, Option.map_eq_some_iff] at decoded
      obtain ⟨more, decodedOthers, rfl⟩ := decoded
      obtain ⟨later, same⟩ :=
        inductionHypothesis ((List.prefix_append_right_inj _).mp begins) decodedOthers
      exact ⟨List.cons_prefix_cons.mpr ⟨rfl, later⟩, by rw [same]; exact List.flatMap_cons.symm⟩
    · have within : cut <+: encodeChar c :=
        (List.prefix_or_prefix_of_prefix begins (List.prefix_append _ _)).resolve_right behind
      have short : cut ≠ encodeChar c := fun same => behind (same ▸ List.prefix_rfl)
      cases cut with
      | nil =>
        obtain rfl : [] = read := Option.some.inj decoded
        exact ⟨List.nil_prefix, rfl⟩
      | cons byte rest =>
        rw [decode?_of_broken within short (List.cons_ne_nil _ _)] at decoded
        cases decoded

end DashboardTools.Text.Utf8
