import DashboardTools.Proofs.Program.Running
import Mathlib.Logic.Function.Basic

/-!
# Programs that share a state

Parties that share a state take turns: in each turn one of them has its next effect answered, or the
state changes on its own. What a party asks for next depends on its own past alone, so a law about
the effects that a program asks for, each after those before it, holds of each party in every play,
no matter what the others do in between.
-/

namespace DashboardTools

/-- An effect that was asked for, with its answer. It says nothing of the state on either side. -/
structure Deed (Effect : Type → Type) where
  {γ : Type}
  effect : Effect γ
  answer : γ

namespace Program

variable {Effect : Type → Type} {State α β : Type}

/-- Whatever is answered, each effect that the program asks for is allowed after the deeds before
it, and the deeds at its end are as they should be. -/
def Obeys (law : List (Deed Effect) → {γ : Type} → Effect γ → Prop)
    (post : α → List (Deed Effect) → Prop) : Program Effect α → List (Deed Effect) → Prop
  | done value, past => post value past
  | perform effect next, past =>
    law past effect ∧ ∀ answer, (next answer).Obeys law post (past ++ [⟨effect, answer⟩])

variable {law : List (Deed Effect) → {γ : Type} → Effect γ → Prop} {past : List (Deed Effect)}

/-- A program that is done obeys any law. The promise must hold of its value and the past it started
with. -/
theorem Obeys.value {post : α → List (Deed Effect) → Prop} {value : α} (ends : post value past) :
    (pure value : Program Effect α).Obeys law post past := ends

/-- A single effect obeys a law that allows it after the past. Every answer is then appended to the
past. -/
theorem Obeys.ask {post : α → List (Deed Effect) → Prop} {effect : Effect α}
    (allowed : law past effect) (ends : ∀ answer, post answer (past ++ [⟨effect, answer⟩])) :
    (request effect).Obeys law post past := ⟨allowed, ends⟩

/-- The rule of sequencing: the second part goes on from the deeds of the first. -/
theorem Obeys.sequence {middle : α → List (Deed Effect) → Prop}
    {post : β → List (Deed Effect) → Prop} {program : Program Effect α}
    {after : α → Program Effect β} (first : program.Obeys law middle past)
    (rest : ∀ value past, middle value past → (after value).Obeys law post past) :
    (program >>= after).Obeys law post past := by
  change (program.bind after).Obeys law post past
  induction program generalizing past with
  | done value => exact rest _ _ first
  | perform effect next inductionHypothesis =>
    exact ⟨first.1, fun answer => inductionHypothesis answer (first.2 answer)⟩

/-- The rule of consequence: a law is still obeyed when less is promised of the end. -/
theorem Obeys.weaken {strong weak : α → List (Deed Effect) → Prop} {program : Program Effect α}
    (obeys : program.Obeys law strong past)
    (implies : ∀ value past, strong value past → weak value past) :
    program.Obeys law weak past := by
  induction program generalizing past with
  | done value => exact implies _ _ obeys
  | perform effect next inductionHypothesis =>
    exact ⟨obeys.1, fun answer => inductionHypothesis answer (obeys.2 answer)⟩

/-- What is asked for next is allowed, and what is left goes on from its answer. -/
theorem obeys_perform_iff {γ : Type} {post : α → List (Deed Effect) → Prop} {effect : Effect γ}
    {next : γ → Program Effect α} :
    (perform effect next).Obeys law post past ↔
      law past effect ∧ ∀ answer, (next answer).Obeys law post (past ++ [⟨effect, answer⟩]) := Iff.rfl

/-- For a program that is done, obeying a law says no more than the promise at the end. -/
theorem obeys_done_iff {post : α → List (Deed Effect) → Prop} {value : α} :
    (done value : Program Effect α).Obeys law post past ↔ post value past := Iff.rfl

attribute [irreducible] Obeys

end Program

/-- A deed of a party, with the states before and after it. -/
structure Event (Effect : Type → Type) (State Party : Type) where
  party : Party
  deed : Deed Effect
  before : State
  after : State

/-- What is left of each party's program, the state that they share, and what happened so far, the
first event first. -/
structure Sharing (Effect : Type → Type) (State Party : Type) (Result : Party → Type) where
  programs : (party : Party) → Program Effect (Result party)
  state : State
  events : List (Event Effect State Party)

/-- A party has its next effect answered, or the state moves on its own. -/
inductive Turn (Party Move : Type) where
  | act (party : Party)
  | pass (move : Move)

section Playing

variable {Effect : Type → Type} {State Party Move : Type} {Result : Party → Type}
variable [DecidableEq Party]

/-- What a party did, by its own deeds alone and in their order. The deeds of others do not show. -/
def deedsOf (party : Party) (events : List (Event Effect State Party)) : List (Deed Effect) :=
  (events.filter fun event => event.party = party).map (·.deed)

namespace Sharing

/-- The parties before the first turn, each with its whole program ahead and nothing done. -/
def start (programs : (party : Party) → Program Effect (Result party)) (state : State) :
    Sharing Effect State Party Result := ⟨programs, state, []⟩

/-- Takes a turn. Nothing is left to do for a party whose program is done. -/
def take (handler : Handler Effect State) (moves : Move → State → State)
    (sharing : Sharing Effect State Party Result) : Turn Party Move → Sharing Effect State Party Result
  | .act party =>
    match sharing.programs party with
    | .done _ => sharing
    | .perform effect next =>
      let answered := handler _ effect sharing.state
      { programs := Function.update sharing.programs party (next answered.1)
        state := answered.2
        events := sharing.events ++ [⟨party, ⟨effect, answered.1⟩, sharing.state, answered.2⟩] }
  | .pass move => { sharing with state := moves move sharing.state }

/-- Takes turns one after the other. Who takes a turn is free, so all orders are covered. -/
def play (handler : Handler Effect State) (moves : Move → State → State)
    (sharing : Sharing Effect State Party Result) (turns : List (Turn Party Move)) :
    Sharing Effect State Party Result := turns.foldl (take handler moves) sharing

end Sharing

/-- What happens to a party is added to the end of that party's own deeds. -/
theorem deedsOf_append_same (events : List (Event Effect State Party))
    (event : Event Effect State Party) :
    deedsOf event.party (events ++ [event]) = deedsOf event.party events ++ [event.deed] := by
  simp [deedsOf]

/-- What happens to one party leaves the deeds of every other party as they were. -/
theorem deedsOf_append_other (events : List (Event Effect State Party))
    {event : Event Effect State Party} {party : Party} (other : event.party ≠ party) :
    deedsOf party (events ++ [event]) = deedsOf party events := by
  simp [deedsOf, other]

omit [DecidableEq Party] in

/-- An event of a longer list is the last one or an event of the shorter list. -/
theorem split_append_singleton {events earlier later : List (Event Effect State Party)}
    {new event : Event Effect State Party} (split : events ++ [new] = earlier ++ event :: later) :
    (earlier = events ∧ event = new ∧ later = []) ∨
      ∃ before, later = before ++ [new] ∧ events = earlier ++ event :: before := by
  rcases List.eq_nil_or_concat later with rfl | ⟨before, last, rfl⟩
  · obtain ⟨rfl, same⟩ := List.append_inj' split rfl
    exact .inl ⟨rfl, (List.cons.inj same).1.symm, rfl⟩
  · rw [List.concat_eq_append, ← List.cons_append, ← List.append_assoc] at split
    obtain ⟨rfl, same⟩ := List.append_inj' split rfl
    refine .inr ⟨before, ?_, rfl⟩
    rw [List.concat_eq_append, (List.cons.inj same).1]

/-- All deeds so far were lawful, and so is what is left to do. -/
structure Lawful (handler : Handler Effect State)
    (law : List (Deed Effect) → {γ : Type} → Effect γ → Prop) (finished : List (Deed Effect) → Prop)
    (sharing : Sharing Effect State Party Result) : Prop where
  past : ∀ earlier event later, sharing.events = earlier ++ event :: later →
    law (deedsOf event.party earlier) event.deed.effect ∧
      handler _ event.deed.effect event.before = (event.deed.answer, event.after)
  ready : ∀ party,
    (sharing.programs party).Obeys law (fun _ => finished) (deedsOf party sharing.events)

variable {handler : Handler Effect State} {moves : Move → State → State}
variable {law : List (Deed Effect) → {γ : Type} → Effect γ → Prop}
variable {finished : List (Deed Effect) → Prop} {sharing : Sharing Effect State Party Result}

/-- A turn keeps what is lawful: the deed of the party was the next one that its program allows. -/
theorem Lawful.take (lawful : Lawful handler law finished sharing) (turn : Turn Party Move) :
    Lawful handler law finished (sharing.take handler moves turn) := by
  cases turn with
  | pass move => exact ⟨lawful.past, lawful.ready⟩
  | act party =>
    simp only [Sharing.take]
    split
    next => exact lawful
    next γ effect next waits =>
      have obeys := lawful.ready party
      rw [waits, Program.obeys_perform_iff] at obeys
      refine ⟨fun earlier event later split => ?_, fun other => ?_⟩
      · rcases split_append_singleton split with ⟨rfl, rfl, _⟩ | ⟨before, _, within⟩
        · exact ⟨obeys.1, rfl⟩
        · exact lawful.past earlier event before within
      · by_cases same : other = party
        · subst same
          have deeds := deedsOf_append_same sharing.events
            ⟨other, ⟨effect, (handler γ effect sharing.state).1⟩, sharing.state,
              (handler γ effect sharing.state).2⟩
          dsimp only at deeds ⊢
          rw [Function.update_self, deeds]
          exact obeys.2 _
        · dsimp only
          rw [Function.update_of_ne same, deedsOf_append_other _ (Ne.symm same)]
          exact lawful.ready other

/-- Programs that obey a law keep it in every play. -/
theorem Lawful.play (lawful : Lawful handler law finished sharing) (turns : List (Turn Party Move)) :
    Lawful handler law finished (sharing.play handler moves turns) := by
  induction turns generalizing sharing with
  | nil => exact lawful
  | cons turn turns inductionHypothesis => exact inductionHypothesis (lawful.take turn)

end Playing

end DashboardTools
