import DashboardTools.Proofs.Json.Grammar

/-!
# Beginnings of objects

An object ends where its brace closes, so no beginning of its text is a document: a reader that
found a value in the beginning would have found the same one in the whole, with text left over.
Numbers are different, since the beginning of a numeral may be a numeral.
-/

namespace DashboardTools.Json

/-- The text of an object begins with its brace, without a blank in front of it. -/
theorem StatesRaw.braced {text : List Char} {fields : List (List Piece × Raw)}
    (states : StatesRaw text (.object fields)) : ∃ rest, text = '\x7b' :: rest := by
  cases states with
  | emptyObject | object => exact ⟨_, rfl⟩

/-- What starts with a brace states an object, since no other value does. -/
theorem StatesRaw.exists_fields {text : List Char} {raw : Raw}
    (states : StatesRaw ('\x7b' :: text) raw) : ∃ fields, raw = .object fields := by
  generalize whole : '\x7b' :: text = written at states
  cases states with
  | emptyObject => exact ⟨_, rfl⟩
  | object _ fields => exact ⟨fields, rfl⟩
  | number _ _ states =>
    obtain ⟨c, rest, rfl, starts⟩ := states.start
    obtain ⟨rfl, _⟩ := List.cons.inj whole
    exact absurd rfl (ne_of_starts starts (by decide))
  | null | yes | no | string | emptyArray | array => cases whole

/-- An object that is stated is taken whole, whatever follows its closing brace. -/
theorem takeRaw_complete_object (fuel : Nat) (rest : List Char) {written : List Char}
    {fields : List (List Piece × Raw)} (states : StatesRaw written (.object fields))
    (enough : 2 * written.length < fuel) :
    takeRaw fuel (written ++ rest) = some (.object fields, rest) := by
  cases fuel with
  | zero => omega
  | succ fuel =>
    cases states with
    | emptyObject gap blank => simpa using takeRaw_emptyObject blank fuel rest
    | object text _ states =>
      simp only [List.length_cons, List.length_append] at enough
      simpa using takeRaw_object (states.sight _) (takeFields_complete fuel rest states (by omega))

/-- The text of an object with characters missing at its end is no document. -/
theorem not_isDocument_of_cut {text cut : List Char} {fields : List (List Piece × Raw)}
    (states : StatesRaw text (.object fields)) (begins : cut <+: text) (short : cut ≠ text)
    (raw : Raw) : ¬ IsDocument cut raw := by
  rintro ⟨before, written, after, rfl, front, found, _⟩
  obtain ⟨missing, rfl⟩ := begins
  obtain ⟨rest, braced⟩ := states.braced
  obtain ⟨c, tail, rfl, _, _⟩ := found.start
  -- The brace is the first character of all, so the value that is found starts with it.
  have nothing : before = [] := by
    cases before with
    | nil => rfl
    | cons blank before =>
      obtain ⟨rfl, _⟩ := List.cons.inj braced
      exact absurd (front _ List.mem_cons_self) (by decide)
  subst nothing
  obtain ⟨rfl, _⟩ := List.cons.inj braced
  obtain ⟨_, rfl⟩ := found.exists_fields
  have wholeTaken := takeRaw_complete_object
    (2 * ('\x7b' :: tail ++ (after ++ missing)).length + 1) [] states
    (by simp only [List.nil_append, List.append_assoc]; omega)
  have cutTaken := takeRaw_complete_object
    (2 * ('\x7b' :: tail ++ (after ++ missing)).length + 1) (after ++ missing) found
    (by simp only [List.length_append]; omega)
  simp only [List.nil_append, List.append_nil, List.append_assoc] at wholeTaken
  rw [wholeTaken] at cutTaken
  have left : [] = after ++ missing := (Prod.mk.inj (Option.some.inj cutTaken)).2
  exact short (by simp [(List.append_eq_nil_iff.mp left.symm).2])

end DashboardTools.Json
