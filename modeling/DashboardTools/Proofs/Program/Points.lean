import DashboardTools.Proofs.Program.Running

/-!
# What holds along a run

A program keeps watch over a run when one statement holds at every state that the run passes and
another one at its end. Such statements are put together the way programs are: the end of the first
part is the beginning of the second.
-/

namespace DashboardTools.Program

variable {Effect : Type → Type} {State α β : Type} {handler : Handler Effect State}

/-- At every state that the run passes `always` holds, and at its end `post` does. -/
structure Holds (handler : Handler Effect State) (always : State → Prop)
    (post : α → State → Prop) (program : Program Effect α) (state : State) : Prop where
  points : ∀ point ∈ program.statesAfter handler state, always point
  last : post (program.run handler state).1 (program.run handler state).2

variable {always : State → Prop} {state : State}

/-- A program that is done passes through no state, so only the end is left to show. -/
theorem Holds.value {post : α → State → Prop} {value : α} (ends : post value state) :
    Holds handler always post (pure value : Program Effect α) state :=
  ⟨by simp, ends⟩

/-- A single effect passes through one state, the one it ends in. -/
theorem Holds.ask {post : α → State → Prop} {effect : Effect α}
    (point : always (handler α effect state).2)
    (ends : post (handler α effect state).1 (handler α effect state).2) :
    Holds handler always post (request effect) state := by
  refine ⟨fun next member => ?_, ends⟩
  obtain rfl : next = (handler α effect state).2 := by simpa using member
  exact point

/-- A weaker promise at the end may be drawn from a stronger one. The states on the way are not
affected. -/
theorem Holds.weaken {first second : α → State → Prop} {program : Program Effect α}
    (holds : Holds handler always first program state)
    (weaker : ∀ value last, first value last → second value last) :
    Holds handler always second program state :=
  ⟨holds.points, weaker _ _ holds.last⟩

/-- The rule of sequencing: what holds after the first part is where the second part begins. -/
theorem Holds.sequence {middle : α → State → Prop} {post : β → State → Prop}
    {program : Program Effect α} {after : α → Program Effect β}
    (first : Holds handler always middle program state)
    (rest : ∀ value next, middle value next → Holds handler always post (after value) next) :
    Holds handler always post (program >>= after) state := by
  have further := rest _ _ first.last
  constructor
  · intro point member
    rw [statesAfter_sequence] at member
    rcases List.mem_append.mp member with early | late
    · exact first.points point early
    · exact further.points point late
  · rw [run_sequence]
    exact further.last

/-- A program keeps an invariant at every state of every run that starts from it. -/
def Maintains (handler : Handler Effect State) (invariant : State → Prop)
    (program : Program Effect α) : Prop :=
  ∀ state, invariant state → Holds handler invariant (fun _ => invariant) program state

variable {invariant : State → Prop}

/-- A program that is done keeps any invariant, since it takes no step that could break it. -/
theorem Maintains.value (value : α) :
    Maintains handler invariant (pure value : Program Effect α) :=
  fun _ holds => .value holds

/-- A single effect keeps an invariant when the handler's answer to it does. -/
theorem Maintains.ask {effect : Effect α}
    (step : ∀ state, invariant state → invariant (handler α effect state).2) :
    Maintains handler invariant (request effect) :=
  fun state holds => .ask (step state holds) (step state holds)

/-- Programs in sequence keep an invariant that each of them keeps, whatever value the first hands
over. -/
theorem Maintains.sequence {program : Program Effect α} {after : α → Program Effect β}
    (first : Maintains handler invariant program)
    (rest : ∀ value, Maintains handler invariant (after value)) :
    Maintains handler invariant (program >>= after) :=
  fun state holds => (first state holds).sequence fun value next => rest value next

end DashboardTools.Program
