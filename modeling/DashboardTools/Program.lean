/-!
# Programs of effects

A program is done with a value, or asks for one effect and goes on with its answer. What an effect
does to a state is said by a handler, so the same program can be run on any world, step by step,
and the states on the way can be looked at.
-/

namespace DashboardTools

/-- A program that asks for effects of the family `Effect`. -/
inductive Program (Effect : Type → Type) (α : Type) : Type 1 where
  | done (value : α)
  | perform {β : Type} (effect : Effect β) (next : β → Program Effect α)

/-- What each effect answers and how it changes a state. -/
abbrev Handler (Effect : Type → Type) (State : Type) := (β : Type) → Effect β → State → β × State

namespace Program

variable {Effect : Type → Type} {State α β : Type}

/-- One program after another: the second begins with the value of the first, once that is done. -/
def bind : Program Effect α → (α → Program Effect β) → Program Effect β
  | done value, after => after value
  | perform effect next, after => perform effect fun answer => (next answer).bind after

/-- The program that asks for one effect and is done with whatever is answered. -/
def request (effect : Effect α) : Program Effect α := perform effect done

/-- Programs are put in sequence by handing the value of the first to the second. Effects already
performed stay performed, whatever the second does. -/
instance : Monad (Program Effect) where
  pure := done
  bind := bind

/-- Runs a program on a state. The handler answers each effect and hands the next state to the rest
of the program. -/
def run (handler : Handler Effect State) : Program Effect α → State → α × State
  | done value, state => (value, state)
  | perform effect next, state =>
    let answered := handler _ effect state
    (next answered.1).run handler answered.2

/-- The states that a run passes through after its first. -/
def statesAfter (handler : Handler Effect State) : Program Effect α → State → List State
  | done _, _ => []
  | perform effect next, state =>
    let answered := handler _ effect state
    answered.2 :: (next answered.1).statesAfter handler answered.2

/-- Running two programs one after the other is running the second from the state in which the first
ends. -/
theorem run_bind (handler : Handler Effect State) (program : Program Effect α)
    (after : α → Program Effect β) (state : State) :
    (program.bind after).run handler state =
      (after (program.run handler state).1).run handler (program.run handler state).2 := by
  induction program generalizing state with
  | done value => rfl
  | perform effect next inductionHypothesis => exact inductionHypothesis _ _

/-- The states of two programs one after the other are those of the first and then those of the
second. -/
theorem statesAfter_bind (handler : Handler Effect State) (program : Program Effect α)
    (after : α → Program Effect β) (state : State) :
    (program.bind after).statesAfter handler state =
      program.statesAfter handler state ++
        (after (program.run handler state).1).statesAfter handler
          (program.run handler state).2 := by
  induction program generalizing state with
  | done value => rfl
  | perform effect next inductionHypothesis =>
    simp only [bind, statesAfter, run, List.cons_append, inductionHypothesis]

end Program

end DashboardTools
