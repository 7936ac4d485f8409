import DashboardTools.Proofs.Text.Fields

/-!
# Runs between separators

A text falls into runs: pieces without a separator that no further character of their kind stands
beside, in the order of the text. Every text falls into runs in exactly one way, and they are its
pieces between separators less the empty ones. How many separators stand between two runs, and
which, makes no difference.
-/

namespace DashboardTools.Text

/-- A text falls into these runs. A run goes on until the text ends or a separator comes. -/
inductive FallsInto (inClass : Char → Bool) : List Char → List (List Char) → Prop where
  | gap (gap : List Char) (separates : ∀ c ∈ gap, inClass c = true) : FallsInto inClass gap []
  | run (gap run rest : List Char) (runs : List (List Char))
      (separates : ∀ c ∈ gap, inClass c = true) (filled : run ≠ [])
      (unbroken : ∀ c ∈ run, inClass c = false) (ends : ∀ c ∈ rest.head?, inClass c = true)
      (others : FallsInto inClass rest runs) : FallsInto inClass (gap ++ run ++ rest) (run :: runs)

/-- The pieces of a text that are not empty, in their order. -/
def filledFields (inClass : Char → Bool) (text : List Char) : List (List Char) :=
  (fields inClass text).filter fun piece => !piece.isEmpty

variable {inClass : Char → Bool}

/-- A separator in front adds no field that is filled. -/
theorem filledFields_cons_separator {mark : Char} (separates : inClass mark = true)
    (rest : List Char) : filledFields inClass (mark :: rest) = filledFields inClass rest := by
  simp [filledFields, fields, separates]

/-- A gap at the beginning has no filled pieces, so it can be left out. -/
theorem filledFields_gap_append {gap : List Char} (separates : ∀ c ∈ gap, inClass c = true)
    (rest : List Char) : filledFields inClass (gap ++ rest) = filledFields inClass rest := by
  induction gap with
  | nil => rfl
  | cons mark gap inductionHypothesis =>
    rw [List.cons_append, filledFields_cons_separator (separates mark List.mem_cons_self)]
    exact inductionHypothesis fun c member => separates c (List.mem_cons_of_mem _ member)

/-- A run at the beginning is one filled piece, provided that it ends where the text does or at a
separator. -/
theorem filledFields_run_append {run rest : List Char} (filled : run ≠ [])
    (unbroken : ∀ c ∈ run, inClass c = false) (ends : ∀ c ∈ rest.head?, inClass c = true) :
    filledFields inClass (run ++ rest) = run :: filledFields inClass rest := by
  have kept : (!run.isEmpty) = true := by simpa using filled
  cases rest with
  | nil => simp [filledFields, fields_of_none unbroken, fields, kept]
  | cons mark rest =>
    have separates : inClass mark = true := ends mark rfl
    rw [filledFields_cons_separator separates]
    simp [filledFields, fields_append separates, fields_of_none unbroken, kept]

namespace FallsInto

variable {text : List Char} {runs : List (List Char)}

/-- The fields that are filled are the runs that the text falls into, in their order. -/
theorem filledFields_eq (falls : FallsInto inClass text runs) :
    filledFields inClass text = runs := by
  induction falls with
  | gap gap separates =>
    have nothing := filledFields_gap_append separates []
    rw [List.append_nil] at nothing
    rw [nothing]
    rfl
  | run gap run rest runs separates filled unbroken ends others inductionHypothesis =>
    rw [List.append_assoc, filledFields_gap_append separates,
      filledFields_run_append filled unbroken ends, inductionHypothesis]

/-- A separator in front of a text leaves the runs it falls into as they are. -/
theorem cons_separator (falls : FallsInto inClass text runs) {mark : Char}
    (isMark : inClass mark = true) : FallsInto inClass (mark :: text) runs := by
  have longer {gap : List Char} (separates : ∀ c ∈ gap, inClass c = true) :
      ∀ c ∈ mark :: gap, inClass c = true := by
    simpa [isMark] using separates
  cases falls with
  | gap _ separates => exact .gap _ (longer separates)
  | run gap run rest runs separates filled unbroken ends others =>
    exact .run (mark :: gap) run rest runs (longer separates) filled unbroken ends others

/-- Another character begins a run of its own or lengthens the run that it stands beside. -/
theorem exists_cons_other (falls : FallsInto inClass text runs) {c : Char}
    (isOther : inClass c = false) : ∃ runs, FallsInto inClass (c :: text) runs := by
  by_cases ends : ∀ d ∈ text.head?, inClass d = true
  · exact ⟨_, .run [] [c] text runs (by simp) (by simp) (by simpa using isOther) ends falls⟩
  · cases falls with
    | gap _ separates =>
      exact absurd (fun d isFirst => separates d (List.mem_of_mem_head? isFirst)) ends
    | run gap run rest runs separates filled unbroken restEnds others =>
      cases gap with
      | nil =>
        have longer : ∀ d ∈ c :: run, inClass d = false := by simpa [isOther] using unbroken
        exact ⟨_, .run [] (c :: run) rest runs (by simp) (by simp) longer restEnds others⟩
      | cons mark gap =>
        have first : inClass mark = true := separates mark List.mem_cons_self
        exact absurd (by simpa using first) ends

/-- Every run has characters, and none of them separates, so no run could be parted further. -/
theorem unbroken_of_mem (falls : FallsInto inClass text runs) :
    ∀ run ∈ runs, run ≠ [] ∧ ∀ c ∈ run, inClass c = false := by
  induction falls with
  | gap => simp
  | run gap run rest runs separates filled unbroken ends others inductionHypothesis =>
    intro other member
    rcases List.mem_cons.mp member with rfl | later
    · exact ⟨filled, unbroken⟩
    · exact inductionHypothesis other later

/-- The characters that separate nothing are those of the runs, in their order. -/
theorem filter_eq_flatten (falls : FallsInto inClass text runs) :
    text.filter (fun c => !inClass c) = runs.flatten := by
  have none {gap : List Char} (separates : ∀ c ∈ gap, inClass c = true) :
      gap.filter (fun c => !inClass c) = [] := by
    simpa [List.filter_eq_nil_iff] using separates
  induction falls with
  | gap gap separates => exact none separates
  | run gap run rest runs separates filled unbroken ends others inductionHypothesis =>
    have all : run.filter (fun c => !inClass c) = run := by
      simpa [List.filter_eq_self] using unbroken
    rw [List.filter_append, List.filter_append, none separates, all, inductionHypothesis]
    rfl

end FallsInto

/-- Every text falls into some runs, perhaps into none. The induction is on the text. -/
theorem exists_fallsInto (inClass : Char → Bool) (text : List Char) :
    ∃ runs, FallsInto inClass text runs := by
  induction text with
  | nil => exact ⟨[], .gap [] (by simp)⟩
  | cons c rest inductionHypothesis =>
    obtain ⟨runs, falls⟩ := inductionHypothesis
    cases separates : inClass c with
    | true => exact ⟨runs, falls.cons_separator separates⟩
    | false => exact falls.exists_cons_other separates

/-- There is one way to fall into runs: into the pieces that are not empty. -/
theorem fallsInto_iff (text : List Char) (runs : List (List Char)) :
    FallsInto inClass text runs ↔ filledFields inClass text = runs := by
  constructor
  · exact FallsInto.filledFields_eq
  · rintro rfl
    obtain ⟨runs, falls⟩ := exists_fallsInto inClass text
    rwa [falls.filledFields_eq]

/-- Runs with one separator after each but the last make up a text that falls into them. -/
theorem fallsInto_intercalate {mark : Char} (isMark : inClass mark = true)
    {runs : List (List Char)} (proper : ∀ run ∈ runs, run ≠ [] ∧ ∀ c ∈ run, inClass c = false) :
    FallsInto inClass ([mark].intercalate runs) runs := by
  induction runs with
  | nil => exact .gap [] (by simp)
  | cons run runs inductionHypothesis =>
    obtain ⟨filled, unbroken⟩ := proper run List.mem_cons_self
    have others := inductionHypothesis fun other member =>
      proper other (List.mem_cons_of_mem _ member)
    cases runs with
    | nil =>
      have alone := FallsInto.run [] run [] [] (by simp) filled unbroken (by simp) others
      simpa using alone
    | cons next more =>
      have parted := FallsInto.run [] run _ _ (by simp) filled unbroken
        (by simpa using isMark) (others.cons_separator isMark)
      simpa [List.intercalate_cons_cons] using parted

end DashboardTools.Text
