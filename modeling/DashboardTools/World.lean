import DashboardTools.Credential.Store
import DashboardTools.Http.Request

/-!
# The world of a program

What a session touches: a disk with the credential file, two clocks, a network and a user to print
for. The wall clock tells the time of day and the monotonic clock measures; both count milliseconds
and move together. The network answers requests in turn, each with a reply, with nothing after
taking the request in, or with nothing at all.

The lines that are logged for an operator, beside what is printed, are no part of this world. They
name addresses, paths, statuses and errors, and no token is handed to them.
-/

namespace DashboardTools

open DashboardTools.Disk
open DashboardTools.Http

/-- What becomes of one request. Time may pass before the reply or the break. -/
inductive Outcome where
  | unreachable
  | dropped (delay : Nat)
  | replied (delay : Nat) (reply : Reply)
  deriving DecidableEq

/-- What a session touches: the disk, the clocks, the network with its outcomes to come, and what
was printed so far. -/
structure World where
  disk : Disk
  wall : Int
  monotonic : Nat
  /-- What becomes of each request, counted from zero. -/
  outcomes : Nat → Outcome
  /-- How many requests were tried. -/
  tried : Nat
  /-- The requests that the network took in, the first one first. -/
  seen : List Request
  /-- The lines printed, the first one first. -/
  printed : List String
  /-- How many seconds were slept. -/
  slept : Nat
  process : Nat

/-- What a session program can ask for. Everything outside the program is behind one of these
effects. -/
inductive Effect : Type → Type where
  | load (path : Path) : Effect (Option Credential)
  | save (path : Path) (credential : Credential) : Effect (Except Problem Unit)
  | clear (path : Path) : Effect Unit
  | wallClock : Effect Float
  | monotonicClock : Effect Nat
  | sleep (seconds : Nat) : Effect Unit
  | exchange (request : Request) : Effect (Option Reply)
  | print (line : String) : Effect Unit

/-- A program of a session, which touches the world through its effects alone. -/
abbrev SessionProgram := Program Effect

namespace World

/-- The world some milliseconds later. Both clocks move on by the same amount, and nothing else
changes. -/
def advance (world : World) (delay : Nat) : World :=
  { world with wall := world.wall + delay, monotonic := world.monotonic + delay }

/-- The time of day in seconds, as a float: the milliseconds of the wall clock divided by a
thousand. -/
def now (world : World) : Float := Float.ofInt world.wall / 1000.0

/-- The world after a request that the network took in. -/
def takeIn (world : World) (request : Request) (delay : Nat) : World :=
  { world.advance delay with seen := world.seen ++ [request] }

/-- Sends a request. The outcome in turn decides whether the network takes it in and whether a reply
comes back. -/
def exchange (world : World) (request : Request) : Option Reply × World :=
  let next := { world with tried := world.tried + 1 }
  match world.outcomes world.tried with
  | .unreachable => (none, next)
  | .dropped delay => (none, next.takeIn request delay)
  | .replied delay reply => (some reply, next.takeIn request delay)

/-- Answers a program's effect in the world. File effects go to the disk, and a pause moves both
clocks. -/
def handle : Handler Effect World
  | _, .load path, world => (Credential.load? world.disk path, world)
  | _, .save path credential, world =>
    let saved := (Credential.save world.process path credential).run Disk.handle world.disk
    (saved.1, { world with disk := saved.2 })
  | _, .clear path, world => ((), { world with disk := Credential.clear world.disk path })
  | _, .wallClock, world => (world.now, world)
  | _, .monotonicClock, world => (world.monotonic, world)
  | _, .sleep seconds, world =>
    ((), { world.advance (1000 * seconds) with slept := world.slept + seconds })
  | _, .exchange request, world => world.exchange request
  | _, .print line, world => ((), { world with printed := world.printed ++ [line] })

end World

end DashboardTools
