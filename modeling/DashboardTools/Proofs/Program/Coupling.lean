import DashboardTools.Proofs.Program.Effects

/-!
# Programs in step

Two programs are in step when they ask for matching effects, one after the other, whatever matching
answers they get, and end in matching values. Being in step is read off the texts of the programs
and says nothing of states. It is enough to know what one pair of matching effects does to two
related states: two runs in step then lead from related states to related states.
-/

namespace DashboardTools

/-- Two results are the same error, or values that are related. -/
inductive AgreeUpTo {ε α β : Type} (related : α → β → Prop) : Except ε α → Except ε β → Prop where
  | error (cause : ε) : AgreeUpTo related (.error cause) (.error cause)
  | ok {one : α} {other : β} (values : related one other) : AgreeUpTo related (.ok one) (.ok other)

/-- Equal outcomes agree up to any reflexive relation, whether they are errors or values. -/
theorem AgreeUpTo.of_eq {ε α : Type} {related : α → α → Prop} (reflexive : ∀ value, related value value)
    {one other : Except ε α} (same : one = other) : AgreeUpTo related one other := by
  subst same
  cases one with
  | error cause => exact .error cause
  | ok value => exact .ok (reflexive value)

namespace Program

variable {Effect : Type → Type} {State Other α β : Type}

/-- Two programs ask for matching effects, whatever matching answers they get, and end alike. -/
inductive InStep (matching : (γ : Type) → Effect γ → Effect γ → Prop)
    (answers : (γ : Type) → Effect γ → γ → γ → Prop) (post : α → β → Prop) :
    Program Effect α → Program Effect β → Prop where
  | done {one : α} {other : β} (ends : post one other) :
    InStep matching answers post (.done one) (.done other)
  | perform {γ : Type} {effect other : Effect γ} {next : γ → Program Effect α}
    {otherNext : γ → Program Effect β} (asked : matching γ effect other)
    (further : ∀ answer otherAnswer, answers γ effect answer otherAnswer →
      InStep matching answers post (next answer) (otherNext otherAnswer)) :
    InStep matching answers post (.perform effect next) (.perform other otherNext)

variable {matching : (γ : Type) → Effect γ → Effect γ → Prop}
variable {answers : (γ : Type) → Effect γ → γ → γ → Prop}

/-- Two programs that are done are in step when their values meet what is promised at the end. -/
theorem InStep.value {post : α → β → Prop} {one : α} {other : β} (ends : post one other) :
    InStep matching answers post (pure one : Program Effect α) (pure other : Program Effect β) :=
  .done ends

/-- Two effects that match are in step when related answers to them meet what is promised at the
end. -/
theorem InStep.ask {post : α → α → Prop} {effect other : Effect α} (asked : matching α effect other)
    (ends : ∀ answer otherAnswer, answers α effect answer otherAnswer → post answer otherAnswer) :
    InStep matching answers post (request effect) (request other) :=
  .perform asked fun answer otherAnswer alike => .done (ends answer otherAnswer alike)

/-- The rule of sequencing: what follows has to be in step for all values that match. -/
theorem InStep.sequence {γ δ : Type} {middle : α → β → Prop} {post : γ → δ → Prop}
    {one : Program Effect α} {other : Program Effect β} {after : α → Program Effect γ}
    {otherAfter : β → Program Effect δ} (first : InStep matching answers middle one other)
    (rest : ∀ value otherValue, middle value otherValue →
      InStep matching answers post (after value) (otherAfter otherValue)) :
    InStep matching answers post (one >>= after) (other >>= otherAfter) := by
  change InStep matching answers post (one.bind after) (other.bind otherAfter)
  induction first with
  | done ends => exact rest _ _ ends
  | perform asked _ inductionHypothesis =>
    exact .perform asked fun answer otherAnswer alike => inductionHypothesis answer otherAnswer alike

/-- The rule of consequence: programs in step stay so when less is promised of their ends. -/
theorem InStep.weaken {strong weak : α → β → Prop} {one : Program Effect α} {other : Program Effect β}
    (inStep : InStep matching answers strong one other)
    (implies : ∀ value otherValue, strong value otherValue → weak value otherValue) :
    InStep matching answers weak one other := by
  induction inStep with
  | done ends => exact .done (implies _ _ ends)
  | perform asked _ inductionHypothesis =>
    exact .perform asked fun answer otherAnswer alike => inductionHypothesis answer otherAnswer alike

/-- A program is in step with itself if all its effects match themselves and have one answer. -/
theorem Uses.inStep {allowed : {γ : Type} → Effect γ → Prop} {program : Program Effect α}
    (uses : program.Uses allowed)
    (reflexive : ∀ {γ : Type} (effect : Effect γ), allowed effect → matching γ effect effect)
    (decided : ∀ {γ : Type} (effect : Effect γ) (answer otherAnswer : γ), allowed effect →
      answers γ effect answer otherAnswer → answer = otherAnswer) :
    InStep matching answers Eq program program := by
  induction program with
  | done value => exact .done rfl
  | perform effect next inductionHypothesis =>
    refine .perform (reflexive effect uses.1) fun answer otherAnswer alike => ?_
    obtain rfl := decided effect answer otherAnswer uses.1 alike
    exact inductionHypothesis answer (uses.2 answer)

/-- What holds of a state only if it held before each effect holds at the start of a run if it holds
at the end. -/
theorem holds_of_run {handler : Handler Effect State} (fits : State → Prop)
    (back : ∀ {γ : Type} (effect : Effect γ) (state : State), fits (handler γ effect state).2 →
      fits state)
    (program : Program Effect α) (state : State) (fit : fits (program.run handler state).2) :
    fits state := by
  induction program generalizing state with
  | done value => exact fit
  | perform effect next inductionHypothesis => exact back effect state (inductionHypothesis _ _ fit)

/-- Two runs in step lead from related states to related states and matching values. A pair of
matching effects may count on the first state after it to fit, which every state of the first run
does if its last one does. -/
theorem InStep.run {handler : Handler Effect State} {otherHandler : Handler Effect Other}
    {related : State → Other → Prop} (fits : State → Prop)
    (back : ∀ {γ : Type} (effect : Effect γ) (state : State), fits (handler γ effect state).2 →
      fits state)
    (step : ∀ {γ : Type} (effect other : Effect γ) (state : State) (otherState : Other),
      matching γ effect other → related state otherState → fits (handler γ effect state).2 →
        answers γ effect (handler γ effect state).1 (otherHandler γ other otherState).1 ∧
          related (handler γ effect state).2 (otherHandler γ other otherState).2)
    {post : α → β → Prop} {one : Program Effect α} {other : Program Effect β}
    (inStep : InStep matching answers post one other) {state : State} {otherState : Other}
    (start : related state otherState) (fit : fits (one.run handler state).2) :
    post (one.run handler state).1 (other.run otherHandler otherState).1 ∧
      related (one.run handler state).2 (other.run otherHandler otherState).2 := by
  induction inStep generalizing state otherState with
  | done ends => exact ⟨ends, start⟩
  | @perform γ effect other next otherNext asked _ inductionHypothesis =>
    have reached := holds_of_run fits back (next (handler γ effect state).1) (handler γ effect state).2 fit
    obtain ⟨alike, further⟩ := step effect other state otherState asked start reached
    exact inductionHypothesis _ _ alike further fit

end Program

end DashboardTools
