import DashboardTools.Proofs.Program.Running

/-!
# Marking the states of a run

A program is marked along a run when each state that the run passes can be given a mark: the mark
fits its state, each marked state may come after the one before it, and at the end mark and state
are as they should be. Marks say what the states alone do not tell, such as how far the run has
come. Marked runs are put together the way programs are.
-/

namespace DashboardTools.Program

variable {Effect : Type → Type} {State Mark α β : Type}

/-- The run of a program from a marked state can be marked. -/
def Marked (handler : Handler Effect State) (fits : Mark → State → Prop)
    (follows : Mark × State → Mark × State → Prop) (post : α → Mark → State → Prop) :
    Program Effect α → Mark → State → Prop
  | done value, mark, state => post value mark state
  | perform effect next, mark, state =>
    ∃ newMark, fits newMark (handler _ effect state).2 ∧
      follows (mark, state) (newMark, (handler _ effect state).2) ∧
      (next (handler _ effect state).1).Marked handler fits follows post newMark
        (handler _ effect state).2

variable {handler : Handler Effect State} {fits : Mark → State → Prop}
variable {follows : Mark × State → Mark × State → Prop} {mark : Mark} {state : State}

/-- A program that is done needs no further mark. The promise must hold of the mark and the state it
starts with. -/
theorem Marked.value {post : α → Mark → State → Prop} {value : α} (ends : post value mark state) :
    (pure value : Program Effect α).Marked handler fits follows post mark state := ends

/-- A single effect moves to a new mark, which must fit the state it leads to and follow the mark
before it. -/
theorem Marked.ask {post : α → Mark → State → Prop} {effect : Effect α} (newMark : Mark)
    (fit : fits newMark (handler α effect state).2)
    (follow : follows (mark, state) (newMark, (handler α effect state).2))
    (ends : post (handler α effect state).1 newMark (handler α effect state).2) :
    (request effect).Marked handler fits follows post mark state := ⟨newMark, fit, follow, ends⟩

/-- The rule of sequencing: the second part goes on from the mark at the end of the first. -/
theorem Marked.sequence {middle : α → Mark → State → Prop} {post : β → Mark → State → Prop}
    {program : Program Effect α} {after : α → Program Effect β}
    (first : program.Marked handler fits follows middle mark state)
    (rest : ∀ value mark next, middle value mark next →
      (after value).Marked handler fits follows post mark next) :
    (program >>= after).Marked handler fits follows post mark state := by
  change (program.bind after).Marked handler fits follows post mark state
  induction program generalizing mark state with
  | done value => exact rest _ _ _ first
  | perform effect next inductionHypothesis =>
    obtain ⟨newMark, fit, follow, further⟩ := first
    exact ⟨newMark, fit, follow, inductionHypothesis _ further⟩

/-- Fewer demands are met by the same marks, on the points of a run as well as at its end. -/
theorem Marked.weaken {otherFits : Mark → State → Prop}
    {otherFollows : Mark × State → Mark × State → Prop} {post otherPost : α → Mark → State → Prop}
    {program : Program Effect α} (marked : program.Marked handler fits follows post mark state)
    (fitting : ∀ mark state, fits mark state → otherFits mark state)
    (following : ∀ first second, fits second.1 second.2 → follows first second →
      otherFollows first second)
    (ending : ∀ value mark state, post value mark state → otherPost value mark state) :
    program.Marked handler otherFits otherFollows otherPost mark state := by
  induction program generalizing mark state with
  | done value => exact ending _ _ _ marked
  | perform effect next inductionHypothesis =>
    obtain ⟨newMark, fit, follow, further⟩ := marked
    exact ⟨newMark, fitting _ _ fit, following _ _ fit follow, inductionHypothesis _ further⟩

/-- The states of a marked run with their marks: each of them may come after all that stand before
it. -/
theorem Marked.points {post : α → Mark → State → Prop} {program : Program Effect α}
    (marked : program.Marked handler fits follows post mark state)
    (transitive : ∀ first second third, follows first second → follows second third →
      follows first third) :
    ∃ points : List (Mark × State),
      points.map (·.2) = program.statesAfter handler state ∧
      (∀ point ∈ points, fits point.1 point.2) ∧
      ((mark, state) :: points).Pairwise follows := by
  induction program generalizing mark state with
  | done value => exact ⟨[], rfl, by simp, by simp⟩
  | perform effect next inductionHypothesis =>
    obtain ⟨newMark, fit, follow, further⟩ := marked
    obtain ⟨points, states, fitting, ordered⟩ := inductionHypothesis _ further
    refine ⟨(newMark, (handler _ effect state).2) :: points, ?_, ?_, ?_⟩
    · rw [List.map_cons, states]
      rfl
    · intro point member
      rcases List.mem_cons.mp member with rfl | later
      · exact fit
      · exact fitting point later
    · refine List.pairwise_cons.mpr ⟨fun point member => ?_, ordered⟩
      rcases List.mem_cons.mp member with rfl | later
      · exact follow
      · exact transitive _ _ _ follow ((List.pairwise_cons.mp ordered).1 point later)

/-- The mark at the end of a marked run goes with the value and the last state. -/
theorem Marked.last {post : α → Mark → State → Prop} {program : Program Effect α}
    (marked : program.Marked handler fits follows post mark state) :
    ∃ lastMark, post (program.run handler state).1 lastMark (program.run handler state).2 := by
  induction program generalizing mark state with
  | done value => exact ⟨mark, marked⟩
  | perform effect next inductionHypothesis =>
    obtain ⟨newMark, _, _, further⟩ := marked
    exact inductionHypothesis _ further

end DashboardTools.Program
