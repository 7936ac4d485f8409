import DashboardTools.Program

/-!
# Running programs written with sequencing

A run of a sequence is the run of its first part followed by the run of what its value chooses.
Two handlers whose answers agree along a projection of their states give the same values, and the
states on the way project onto each other, so a program may be run on a state that remembers more
than the program can see.
-/

namespace DashboardTools.Program

variable {Effect : Type → Type} {State Other α β : Type}

/-- Running a program that is done answers its value and leaves the state. -/
@[simp] theorem run_pure (handler : Handler Effect State) (value : α) (state : State) :
    Program.run handler (pure value : Program Effect α) state = (value, state) := rfl

/-- Running a single effect is asking the handler for it. -/
@[simp] theorem run_request (handler : Handler Effect State) (effect : Effect α) (state : State) :
    (request effect).run handler state = handler α effect state := rfl

/-- The run of a sequence in the notation of programs. -/
@[simp] theorem run_sequence (handler : Handler Effect State) (program : Program Effect α)
    (after : α → Program Effect β) (state : State) :
    Program.run handler (program >>= after) state =
      (after (program.run handler state).1).run handler (program.run handler state).2 :=
  run_bind handler program after state

/-- A program that is done passes through no states, not even the one it starts in. -/
@[simp] theorem statesAfter_pure (handler : Handler Effect State) (value : α) (state : State) :
    Program.statesAfter handler (pure value : Program Effect α) state = [] := rfl

/-- A single effect passes through the one state that the handler leaves. -/
@[simp] theorem statesAfter_request (handler : Handler Effect State) (effect : Effect α)
    (state : State) :
    (request effect).statesAfter handler state = [(handler α effect state).2] := rfl

/-- The states of a sequence in the notation of programs. -/
@[simp] theorem statesAfter_sequence (handler : Handler Effect State) (program : Program Effect α)
    (after : α → Program Effect β) (state : State) :
    Program.statesAfter handler (program >>= after) state =
      program.statesAfter handler state ++
        (after (program.run handler state).1).statesAfter handler
          (program.run handler state).2 :=
  statesAfter_bind handler program after state

/-- A run on a state that remembers more gives the same value, and its end projects onto the end of
the plain run. -/
theorem run_project {handler : Handler Effect State} {richer : Handler Effect Other}
    (project : Other → State)
    (agrees : ∀ (γ : Type) (effect : Effect γ) (state : Other),
      handler γ effect (project state) =
        ((richer γ effect state).1, project (richer γ effect state).2))
    (program : Program Effect α) (state : Other) :
    program.run handler (project state) =
      ((program.run richer state).1, project (program.run richer state).2) := by
  induction program generalizing state with
  | done value => rfl
  | perform effect next inductionHypothesis =>
    simp only [run, agrees, inductionHypothesis]

end DashboardTools.Program
