import DashboardTools.Proofs.Service.Secrecy
import Mathlib.Data.List.Forall2

/-!
# Two worlds abreast

Two worlds are alike when they are the same but for tokens. Their networks need not answer alike for
good: it is enough that each request that the first world sends would have been answered alike by
the second network. Then every pair of alike effects leaves alike worlds, and so do two programs in
step.
-/

namespace DashboardTools.Service

open DashboardTools.Credential
open DashboardTools.Disk
open DashboardTools.Http

variable {service : Service}

/-- Two worlds are the same but for tokens: in the files of their disks and in the requests that
their networks took in. What becomes of later requests is left open. -/
structure WorldsAlike (service : Service) (world other : World) : Prop where
  disk : Disk.Alike FilesAlike world.disk other.disk
  wall : world.wall = other.wall
  monotonic : world.monotonic = other.monotonic
  tried : world.tried = other.tried
  seen : List.Forall₂ service.RequestsAlike world.seen other.seen
  printed : world.printed = other.printed
  slept : world.slept = other.slept
  process : world.process = other.process

/-- Two chronicles tell of the same requests, but for tokens, and lead to alike worlds. -/
structure ChroniclesAlike (service : Service) (chronicle other : Chronicle) : Prop where
  world : service.WorldsAlike chronicle.world other.world
  requests : List.Forall₂ (fun exchange otherExchange =>
    service.RequestsAlike exchange.request otherExchange.request) chronicle.exchanges other.exchanges

/-- Each request would have been answered alike by a network with these outcomes. -/
def AnsweredAlike (service : Service) (outcomes : Nat → Outcome) (exchanges : List Exchange) : Prop :=
  ∀ exchange ∈ exchanges, service.OutcomesAlike exchange.request
    (exchange.before.outcomes exchange.before.tried) (outcomes exchange.before.tried)

/-- Two chronicles are alike, and the second network has these outcomes. -/
structure Abreast (service : Service) (outcomes : Nat → Outcome) (chronicle other : Chronicle) :
    Prop where
  alike : service.ChroniclesAlike chronicle other
  network : other.world.outcomes = outcomes

variable {outcomes : Nat → Outcome} {chronicle other : Chronicle} {world otherWorld : World}

/-- Worlds that are alike stay alike when the same time passes in both. -/
theorem WorldsAlike.advance (alike : service.WorldsAlike world otherWorld) (delay : Nat) :
    service.WorldsAlike (world.advance delay) (otherWorld.advance delay) :=
  { alike with
    wall := congrArg (· + (delay : Int)) alike.wall
    monotonic := congrArg (· + delay) alike.monotonic }

/-- Alike worlds show the same time, on the wall clock and hence to every program. -/
theorem WorldsAlike.now (alike : service.WorldsAlike world otherWorld) : world.now = otherWorld.now := by
  rw [World.now, World.now, alike.wall]

/-- A request that is answered alike leaves alike worlds and brings alike replies. -/
theorem WorldsAlike.exchange {request otherRequest : Request}
    (alike : service.WorldsAlike world otherWorld)
    (requests : service.RequestsAlike request otherRequest)
    (answered : service.OutcomesAlike request (world.outcomes world.tried)
      (otherWorld.outcomes otherWorld.tried)) :
    service.AnswersAlike _ (.exchange request) (world.exchange request).1
        (otherWorld.exchange otherRequest).1 ∧
      service.WorldsAlike (world.exchange request).2 (otherWorld.exchange otherRequest).2 := by
  have tried : service.WorldsAlike { world with tried := world.tried + 1 }
      { otherWorld with tried := otherWorld.tried + 1 } :=
    { alike with tried := congrArg (· + 1) alike.tried }
  have takenIn (delay : Nat) : service.WorldsAlike
      ({ world with tried := world.tried + 1 }.takeIn request delay)
      ({ otherWorld with tried := otherWorld.tried + 1 }.takeIn otherRequest delay) :=
    { tried.advance delay with seen := List.rel_append alike.seen (.cons requests .nil) }
  unfold World.exchange
  generalize world.outcomes world.tried = one at answered ⊢
  generalize otherWorld.outcomes otherWorld.tried = two at answered ⊢
  cases answered with
  | same =>
    cases one with
    | unreachable => exact ⟨⟨.none, fun _ => rfl⟩, tried⟩
    | dropped delay => exact ⟨⟨.none, fun _ => rfl⟩, takenIn delay⟩
    | replied delay reply => exact ⟨⟨.some (.same reply), fun _ => rfl⟩, takenIn delay⟩
  | granted delay asks replies =>
    exact ⟨⟨.some replies, fun plain => absurd asks plain⟩, takenIn delay⟩

/-- What was answered alike after an effect was answered alike before it. -/
theorem answeredAlike_back {γ : Type} (effect : Effect γ) (chronicle : Chronicle)
    (answered : service.AnsweredAlike outcomes (Chronicle.handle γ effect chronicle).2.exchanges) :
    service.AnsweredAlike outcomes chronicle.exchanges := by
  cases effect with
  | exchange request =>
    exact fun exchange member => answered exchange (List.mem_append_left _ member)
  | _ => exact answered

/-- Two effects bring alike answers in two chronicles and leave them abreast. -/
def Together (service : Service) (outcomes : Nat → Outcome) (chronicle other : Chronicle) {γ : Type}
    (effect otherEffect : Effect γ) : Prop :=
  service.AnswersAlike γ effect (Chronicle.handle γ effect chronicle).1
      (Chronicle.handle γ otherEffect other).1 ∧
    service.Abreast outcomes (Chronicle.handle γ effect chronicle).2
      (Chronicle.handle γ otherEffect other).2

/-- The second network is asked at the same turn as the first, and answers alike. -/
theorem Abreast.exchange (abreast : service.Abreast outcomes chronicle other)
    {request otherRequest : Request} (requests : service.RequestsAlike request otherRequest)
    (answered : service.AnsweredAlike outcomes
      (Chronicle.handle _ (.exchange request) chronicle).2.exchanges) :
    service.Together outcomes chronicle other (.exchange request) (.exchange otherRequest) := by
  obtain ⟨⟨alike, earlier⟩, network⟩ := abreast
  have last : service.OutcomesAlike request (chronicle.world.outcomes chronicle.world.tried)
      (outcomes chronicle.world.tried) :=
    answered (Exchange.of request chronicle.world) (List.mem_append_right _ List.mem_cons_self)
  rw [← network, alike.tried] at last
  have turn : chronicle.world.outcomes chronicle.world.tried =
      chronicle.world.outcomes other.world.tried := congrArg _ alike.tried
  obtain ⟨replies, worlds⟩ := alike.exchange requests (turn ▸ last)
  have kept : (other.world.exchange otherRequest).2.outcomes = other.world.outcomes := by
    unfold World.exchange
    cases other.world.outcomes other.world.tried <;> rfl
  exact ⟨replies, ⟨worlds, List.rel_append earlier (.cons requests .nil)⟩, kept.trans network⟩

/-- Alike credentials are saved with the same result, and leave worlds that are alike again. -/
theorem Abreast.save (abreast : service.Abreast outcomes chronicle other) (path : Path)
    {credential otherCredential : Credential} (credentials : credential.Alike otherCredential) :
    service.Together outcomes chronicle other (.save path credential)
      (.save path otherCredential) := by
  obtain ⟨⟨alike, requests⟩, network⟩ := abreast
  have ends : EndsAlike FilesAlike
      ((Credential.save chronicle.world.process path credential).run Disk.handle
        chronicle.world.disk)
      ((Credential.save other.world.process path otherCredential).run Disk.handle
        other.world.disk) := by
    rw [← alike.process]
    exact save_endsAlike alike.disk credentials chronicle.world.process path
  exact ⟨ends.1, ⟨{ alike with disk := ends.2 }, requests⟩, network⟩

/-- The step of the induction: alike effects leave two chronicles abreast and bring alike
answers. -/
theorem Abreast.handle (abreast : service.Abreast outcomes chronicle other) {γ : Type}
    {effect otherEffect : Effect γ} (effects : service.EffectsAlike γ effect otherEffect)
    (answered : service.AnsweredAlike outcomes (Chronicle.handle γ effect chronicle).2.exchanges) :
    service.Together outcomes chronicle other effect otherEffect := by
  cases effects with
  | save path credentials => exact abreast.save path credentials
  | exchange requests => exact abreast.exchange requests answered
  | same =>
    have ⟨⟨alike, requests⟩, network⟩ := abreast
    cases effect with
    | load path => exact ⟨load?_alike alike.disk path, abreast⟩
    | save path credential => exact abreast.save path (.refl credential)
    | clear path =>
      exact ⟨rfl, ⟨{ alike with disk := clear_alike alike.disk path }, requests⟩, network⟩
    | wallClock => exact ⟨alike.now, abreast⟩
    | monotonicClock => exact ⟨alike.monotonic, abreast⟩
    | sleep seconds =>
      have slept := congrArg (· + seconds) alike.slept
      exact ⟨rfl, ⟨{ alike.advance (1000 * seconds) with slept := slept }, requests⟩, network⟩
    | exchange request => exact abreast.exchange (.same request) answered
    | print line =>
      have printed := congrArg (· ++ [line]) alike.printed
      exact ⟨rfl, ⟨{ alike with printed := printed }, requests⟩, network⟩

/-- Programs in step leave two chronicles abreast and end alike. -/
theorem InStep.run_abreast {α β : Type} {post : α → β → Prop} {program : SessionProgram α}
    {otherProgram : SessionProgram β} (inStep : service.InStep post program otherProgram)
    (abreast : service.Abreast outcomes chronicle other)
    (answered : service.AnsweredAlike outcomes
      (program.run Chronicle.handle chronicle).2.exchanges) :
    post (program.run Chronicle.handle chronicle).1 (otherProgram.run Chronicle.handle other).1 ∧
      service.Abreast outcomes (program.run Chronicle.handle chronicle).2
        (otherProgram.run Chronicle.handle other).2 :=
  Program.InStep.run (fun chronicle => service.AnsweredAlike outcomes chronicle.exchanges)
    answeredAlike_back (fun _ _ _ _ effects abreast answered => abreast.handle effects answered)
    inStep abreast answered

end DashboardTools.Service
