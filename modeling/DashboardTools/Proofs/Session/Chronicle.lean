import DashboardTools.Proofs.Program.Running
import DashboardTools.Service.Basic

/-!
# The chronicle of a session

A chronicle is a world together with all exchanges with the network so far: each request that was
tried, with the worlds before and after it and the reply, if there was one. No program can see the
chronicle. So a run on a chronicle is the run on its world, and tells in addition what was sent.
-/

namespace DashboardTools

open DashboardTools.Disk
open DashboardTools.Http

/-- A request that was tried, with what became of it. -/
structure Exchange where
  request : Request
  before : World
  reply? : Option Reply
  after : World

/-- A world and the exchanges on the way to it, the first one first. -/
@[ext] structure Chronicle where
  world : World
  exchanges : List Exchange

/-- The exchange that a request makes in a world: what comes back, and the worlds on both sides of
it. -/
def Exchange.of (request : Request) (world : World) : Exchange :=
  ⟨request, world, (world.exchange request).1, (world.exchange request).2⟩

/-- An exchange with the network leaves the disk alone, so what was stored before it is stored after
it. -/
@[simp] theorem Exchange.of_after_disk (request : Request) (world : World) :
    (Exchange.of request world).after.disk = world.disk := by
  simp only [Exchange.of, World.exchange]
  cases world.outcomes world.tried <;> rfl

namespace Chronicle

/-- A chronicle that begins now, with no exchange in it. -/
def start (world : World) : Chronicle := ⟨world, []⟩

/-- Answers a program's effect and notes exchanges. Otherwise it does what the world does. -/
def handle : Handler Effect Chronicle
  | _, .exchange request, chronicle =>
    let exchange := Exchange.of request chronicle.world
    (exchange.reply?, ⟨exchange.after, chronicle.exchanges ++ [exchange]⟩)
  | _, .load path, chronicle => (Credential.load? chronicle.world.disk path, chronicle)
  | _, .save path credential, chronicle =>
    let answered := World.handle _ (.save path credential) chronicle.world
    (answered.1, { chronicle with world := answered.2 })
  | _, .clear path, chronicle =>
    ((), { chronicle with world := (World.handle _ (.clear path) chronicle.world).2 })
  | _, .wallClock, chronicle => (chronicle.world.now, chronicle)
  | _, .monotonicClock, chronicle => (chronicle.world.monotonic, chronicle)
  | _, .sleep seconds, chronicle =>
    ((), { chronicle with world := (World.handle _ (.sleep seconds) chronicle.world).2 })
  | _, .print line, chronicle =>
    ((), { chronicle with world := (World.handle _ (.print line) chronicle.world).2 })

/-- Taking notes changes nothing: a run on a chronicle is the run on its world. -/
theorem run_world {α : Type} (program : SessionProgram α) (chronicle : Chronicle) :
    program.run World.handle chronicle.world =
      ((program.run handle chronicle).1, (program.run handle chronicle).2.world) := by
  refine Program.run_project Chronicle.world (fun γ effect chronicle => ?_) program chronicle
  cases effect <;> rfl

end Chronicle

namespace Http.Plan

/-- The exchange that sending comes to in a world, if a request can be built. -/
@[irreducible] def exchange? (plan : Plan) (world : World) : Option Exchange :=
  match plan.build with
  | .error _ => none
  | .ok request => some (.of request world)

/-- What sending answers: a reply, or why there is none. It is kept closed, and proofs go by what is
known of it. -/
@[irreducible] def answer (plan : Plan) (world : World) : Except NetworkError Reply :=
  match plan.build with
  | .error cause => .error cause
  | .ok request =>
    match (Exchange.of request world).reply? with
    | some reply => .ok reply
    | none => .error (.unanswered (.ofList request.url.text))

/-- The world after sending. Where no request can be built it is the world before. -/
@[irreducible] def later (plan : Plan) (world : World) : World :=
  ((plan.exchange? world).map (·.after)).getD world

/-- Sending a plan makes one exchange, or none when no request can be built. -/
theorem run_send (plan : Plan) (chronicle : Chronicle) :
    plan.send.run Chronicle.handle chronicle =
      (plan.answer chronicle.world,
        ⟨plan.later chronicle.world,
          chronicle.exchanges ++ (plan.exchange? chronicle.world).toList⟩) := by
  unfold send answer later exchange?
  cases plan.build with
  | error cause => simp
  | ok request =>
    simp only [Program.run_sequence, SessionProgram.ask, Program.run_request, Chronicle.handle]
    cases (Exchange.of request chronicle.world).reply? <;> rfl

/-- Sending leaves the disk alone, whatever becomes of the request. -/
@[simp] theorem later_disk (plan : Plan) (world : World) : (plan.later world).disk = world.disk := by
  unfold later exchange?
  cases plan.build with
  | error cause => rfl
  | ok request => exact Exchange.of_after_disk request world

/-- An exchange of a plan carries the plan's request and ends in the reply that sending answers. -/
theorem exchange?_eq_some {plan : Plan} {world : World} {exchange : Exchange}
    (made : plan.exchange? world = some exchange) :
    plan.build = .ok exchange.request ∧ exchange.before = world ∧
      plan.later world = exchange.after ∧
      ∀ reply, plan.answer world = .ok reply ↔ exchange.reply? = some reply := by
  unfold exchange? at made
  cases built : plan.build with
  | error cause => simp [built] at made
  | ok request =>
    simp only [built, Option.some.injEq] at made
    subst made
    refine ⟨rfl, rfl, by simp [later, exchange?, built], fun reply => ?_⟩
    simp only [answer, built]
    cases (Exchange.of request world).reply? <;> simp

/-- The exchange of a plan is the one of the request that is built for it. -/
theorem exchange?_eq_some_iff {plan : Plan} {world : World} {exchange : Exchange} :
    plan.exchange? world = some exchange ↔
      ∃ request, plan.build = .ok request ∧ exchange = .of request world := by
  unfold exchange?
  cases plan.build with
  | error cause => simp
  | ok request => simp [eq_comm]

/-- Sending a plan that comes to a request makes the exchange of that request, and ends in its reply
and in the world after it. -/
theorem sends_of_build {plan : Plan} {request : Request} (built : plan.build = .ok request)
    (world : World) : plan.exchange? world = some (.of request world) ∧
      plan.later world = (Exchange.of request world).after ∧
      ∀ reply, plan.answer world = .ok reply ↔ (Exchange.of request world).reply? = some reply := by
  have made := exchange?_eq_some_iff.mpr ⟨request, built, Eq.refl (Exchange.of request world)⟩
  obtain ⟨_, _, later, answer⟩ := exchange?_eq_some made
  exact ⟨made, later, answer⟩

/-- Sending a plan that comes to no request makes no exchange, answers why, and leaves the world as
it is. -/
theorem unsent_of_build {plan : Plan} {cause : NetworkError} (unbuilt : plan.build = .error cause)
    (world : World) :
    plan.exchange? world = none ∧ plan.later world = world ∧ plan.answer world = .error cause := by
  have none : plan.exchange? world = none := by rw [exchange?, unbuilt]
  refine ⟨none, ?_, by rw [answer, unbuilt]⟩
  rw [later, none, Option.map_none, Option.getD_none]

end Http.Plan

end DashboardTools
