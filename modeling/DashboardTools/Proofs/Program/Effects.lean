import DashboardTools.Proofs.Program.Running

/-!
# Programs by the effects they use

Which effects a program can ask for is read off its text, whatever they answer. A relation between
states that every allowed effect keeps, and that composes, then holds between the start of a run and
each of its states.
-/

namespace DashboardTools.Program

variable {Effect : Type → Type} {State α β : Type}

/-- Every effect that the program can come to ask for is allowed. -/
def Uses (allowed : {γ : Type} → Effect γ → Prop) : Program Effect α → Prop
  | done _ => True
  | perform effect next => allowed effect ∧ ∀ answer, (next answer).Uses allowed

variable {allowed : {γ : Type} → Effect γ → Prop}

/-- A program that is done uses no effect, so any permission covers it. -/
theorem Uses.value (value : α) : (pure value : Program Effect α).Uses allowed := trivial

/-- A single effect uses only what is allowed when it is itself allowed. -/
theorem Uses.ask {effect : Effect α} (permitted : allowed effect) :
    (request effect).Uses allowed := ⟨permitted, fun _ => trivial⟩

/-- A sequence uses what its parts use, whatever value the first part hands over. -/
theorem Uses.sequence {program : Program Effect α} {after : α → Program Effect β}
    (first : program.Uses allowed) (rest : ∀ value, (after value).Uses allowed) :
    (program >>= after).Uses allowed := by
  change (program.bind after).Uses allowed
  induction program with
  | done value => exact rest value
  | perform effect next inductionHypothesis =>
    exact ⟨first.1, fun answer => inductionHypothesis answer (first.2 answer)⟩

/-- A reflexive and transitive relation that every allowed effect keeps relates the start of a run
to its end. The induction follows the program, one effect at a time. -/
theorem Uses.run_related (handler : Handler Effect State) (related : State → State → Prop)
    (reflexive : ∀ state, related state state)
    (transitive : ∀ first second third, related first second → related second third →
      related first third)
    (step : ∀ (γ : Type) (effect : Effect γ) (state : State), allowed effect →
      related state (handler γ effect state).2)
    {program : Program Effect α} (uses : program.Uses allowed) (state : State) :
    related state (program.run handler state).2 := by
  induction program generalizing state with
  | done value => exact reflexive state
  | perform effect next inductionHypothesis =>
    have first := step _ effect state uses.1
    exact transitive _ _ _ first (inductionHypothesis _ (uses.2 _) _)

end DashboardTools.Program
