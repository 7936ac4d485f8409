import DashboardTools.Proofs.Session.Custody
import DashboardTools.Session

/-!
# Custody over a whole session

A run of a session takes steps and lets time pass. Every step is a program that never loses custody,
so the statement about single effects holds at every point of every run, from any content of the
credential file. It follows that a token that is no longer stored is not sent again before an answer
delivers it again.
-/

namespace DashboardTools

open DashboardTools.Disk
open DashboardTools.Http
open DashboardTools.Json

variable {service : Service} {site : Docs.Site} {handed : String → Prop} {origin : Chronicle}

/-- Printing is careful, since it sends nothing and leaves the disk alone. -/
theorem print_careful (line : String) :
    Careful service site handed origin (SessionProgram.ask (.print line)) :=
  .ask fun _ custody => custody.unchanged rfl rfl

/-- Polling until an end is careful for any fuel. The induction is on the fuel. -/
theorem pollUntil_careful (deviceCode : String) (interval deadline fuel : Nat) :
    Careful service site handed origin
      (Command.pollUntil service deviceCode interval deadline fuel) := by
  induction fuel with
  | zero => exact .value _
  | succ fuel inductionHypothesis =>
    refine .sequence (.ask fun _ custody => custody.unchanged rfl rfl) fun _ => ?_
    refine .sequence (poll_careful deviceCode) fun outcome => ?_
    split
    · exact .value _
    · exact .value _
    · exact .value _
    · exact .value _
    · refine .sequence (.ask fun _ custody => custody) fun now => ?_
      split
      · exact inductionHypothesis
      · exact .value _

/-- Printing lines is careful. The induction is on the lines. -/
theorem printAll_careful (lines : List String) :
    Careful service site handed origin (Command.printAll lines) := by
  induction lines with
  | nil => exact .value _
  | cons line rest inductionHypothesis =>
    exact .sequence (print_careful line) fun _ => inductionHypothesis

/-- Logging in is careful: its start and its polls send no stored token, and only what was granted
is saved. -/
theorem login_careful : Careful service site handed origin (Command.login service) := by
  refine .sequence startDevice_careful fun outcome => ?_
  cases outcome with
  | error error => exact .value _
  | ok authorization =>
    refine .sequence (printAll_careful _) fun _ => ?_
    refine .sequence (.ask fun _ custody => custody) fun now => ?_
    split
    · exact .value _
    · exact pollUntil_careful _ _ _ _

/-- The login command is careful, with the lines it prints before and after. -/
theorem runLogin_careful (configuration : Configuration) :
    Careful configuration.service site handed origin (Command.runLogin configuration) := by
  refine .sequence login_careful fun outcome => ?_
  cases outcome with
  | error failure => exact .value _
  | ok grant =>
    exact .sequence (print_careful _) fun _ => .sequence (print_careful _) fun _ => .value _

/-- The status command is careful, since it only reads the credential file and prints. -/
theorem runStatus_careful (configuration : Configuration) :
    Careful service site handed origin (Command.runStatus configuration) := by
  refine .sequence (print_careful _) fun _ => ?_
  refine .sequence (.ask fun _ custody => custody) fun now => ?_
  refine .sequence (.ask fun _ custody => custody) fun credential? => ?_
  exact .sequence (print_careful _) fun _ => .sequence (print_careful _) fun _ => print_careful _

/-- The logout command is careful, since it only clears the credential file and prints. -/
theorem runLogout_careful (configuration : Configuration) :
    Careful service site handed origin (Command.runLogout configuration) :=
  .sequence (clear_careful _) fun _ => print_careful _

/-- Calling a tool's endpoint is careful, for any method, endpoint and input. -/
theorem callEndpoint_careful (tool : Tool) (given : Tool.Given) (method : String)
    (endpoint : List Tool.Segment) (use : Tool.InputUse) :
    Careful service site handed origin (tool.callEndpoint service given method endpoint use) := by
  unfold Tool.callEndpoint
  split
  · exact .value _
  · exact call_careful _ _

/-- Calling a tool by its name is careful, whether or not there is such a tool and its arguments can
be read. -/
theorem callTool_careful (server : ToolServer) (cached? : Option Docs.Cached) (name : String)
    (fields : List (String × Value)) :
    Careful server.service server.site handed origin (server.call cached? name fields) := by
  unfold ToolServer.call
  split
  · exact .value _
  · split
    · exact .value _
    · refine .sequence ?_ fun result => .value _
      unfold Tool.perform
      split
      · exact .sequence startDevice_careful fun outcome => .value _
      · exact .sequence (poll_careful _) fun outcome => .value _
      · exact .sequence (.sequence (fetch_careful _) fun _ => .value _) fun outcome => .value _
      · exact .sequence (.sequence (fetch_careful _) fun _ => .value _) fun outcome => .value _
      · exact .sequence (callEndpoint_careful _ _ _ _ _) fun outcome => .value _

/-- Every step is careful; a renewal that is asked for sends the token at hand. -/
theorem step_careful (configuration : Configuration) (caches : Caches) (step : Step)
    (inHand : ∀ token, step = .refresh token → handed token) :
    Careful configuration.service configuration.site handed origin
      (step.program configuration caches) := by
  cases step with
  | loadCredential => exact .sequence (.ask fun _ custody => custody) fun _ => .value _
  | clearCredential => exact .sequence (clear_careful _) fun _ => .value _
  | accessToken => exact .sequence accessToken_careful fun _ => .value _
  | isAuthenticated => exact .sequence accessToken_careful fun _ => .value _
  | apiBase => exact .value _
  | refresh token => exact .sequence (refresh_careful (inHand token rfl)) fun _ => .value _
  | call path options => exact .sequence (call_careful path options) fun _ => .value _
  | callForNothing path options =>
    exact .sequence (callForNothing_careful path options) fun _ => .value _
  | startDevice => exact .sequence startDevice_careful fun _ => .value _
  | poll deviceCode => exact .sequence (poll_careful deviceCode) fun _ => .value _
  | fetchDocs => exact .sequence (fetch_careful _) fun _ => .value _
  | searchDocs query category? limit? =>
    exact .sequence (.sequence (fetch_careful _) fun _ => .value _) fun _ => .value _
  | getDoc path =>
    exact .sequence (.sequence (fetch_careful _) fun _ => .value _) fun _ => .value _
  | forgetDocs => exact .value _
  | login => exact .sequence (runLogin_careful configuration) fun _ => .value _
  | status => exact .sequence (runStatus_careful configuration) fun _ => .value _
  | logout => exact .sequence (runLogout_careful configuration) fun _ => .value _
  | callTool name fields =>
    exact .sequence (callTool_careful configuration.toolServer _ name fields) fun _ => .value _

/-- What happens to a session: a step is taken, or time passes. -/
inductive Happening where
  | step (step : Step)
  | pass (milliseconds : Nat)

/-- A session with the exchanges so far, so that a run can be told from its beginning. -/
structure Telling where
  session : Session
  exchanges : List Exchange

namespace Telling

/-- The chronicle of a telling: the world as it stands, and the exchanges so far. -/
def chronicle (telling : Telling) : Chronicle := ⟨telling.session.world, telling.exchanges⟩

/-- The program of a step in the session that is told of. -/
def programOf (telling : Telling) (step : Step) : SessionProgram (Answer × Caches) :=
  step.program telling.session.configuration telling.session.caches

/-- The telling after something happened: after a step, or after some time without one. -/
def after (telling : Telling) : Happening → Telling
  | .step step =>
    { session := (telling.session.take step).2
      exchanges := ((telling.programOf step).run Chronicle.handle telling.chronicle).2.exchanges }
  | .pass milliseconds =>
    { telling with
      session := { telling.session with world := telling.session.world.advance milliseconds } }

/-- All points that a happening passes, the last one last. -/
def points (telling : Telling) : Happening → List Chronicle
  | .step step => (telling.programOf step).statesAfter Chronicle.handle telling.chronicle
  | .pass milliseconds => [(telling.after (.pass milliseconds)).chronicle]

/-- The telling after everything happened, one happening after the other. -/
def run (telling : Telling) (happenings : List Happening) : Telling :=
  happenings.foldl after telling

/-- All points that a run passes after its beginning, those within a step as well as those between
steps. -/
def allPoints (telling : Telling) : List Happening → List Chronicle
  | [] => []
  | happening :: rest => telling.points happening ++ (telling.after happening).allPoints rest

end Telling

/-- A session of which there is nothing to tell yet. -/
def Session.begin (session : Session) : Telling := ⟨session, []⟩

variable {telling : Telling}

/-- No happening changes the configuration of a session, so its addresses and its file stay the
same. -/
@[simp] theorem configuration_after (telling : Telling) (happening : Happening) :
    (telling.after happening).session.configuration = telling.session.configuration := by
  cases happening <;> rfl

/-- A session keeps its configuration through any number of happenings. -/
@[simp] theorem configuration_run (telling : Telling) (happenings : List Happening) :
    (telling.run happenings).session.configuration = telling.session.configuration := by
  induction happenings generalizing telling with
  | nil => rfl
  | cons happening rest inductionHypothesis =>
    exact (inductionHypothesis _).trans (configuration_after telling happening)

/-- A telling of two stretches one after the other is the telling of the second from where the first
ends. -/
theorem run_append (telling : Telling) (first second : List Happening) :
    telling.run (first ++ second) = (telling.run first).run second := List.foldl_append

/-- The session that is told of takes the step itself. -/
theorem chronicle_after_step (telling : Telling) (step : Step) :
    (telling.after (.step step)).chronicle =
      ((telling.programOf step).run Chronicle.handle telling.chronicle).2 := by
  have same := Chronicle.run_world (telling.programOf step) telling.chronicle
  have world : (telling.after (.step step)).chronicle.world =
      ((telling.programOf step).run World.handle telling.chronicle.world).2 := rfl
  rw [same] at world
  exact Chronicle.ext world rfl

/-- What is at stake in a run of a session. -/
abbrev InCustody (telling : Telling) (handed : String → Prop) (origin point : Chronicle) : Prop :=
  Custody telling.session.configuration.service telling.session.configuration.site handed origin
    point

/-- One happening keeps custody at each of its points, provided that a token to be renewed with was
at hand. -/
theorem custody_after (custody : InCustody telling handed origin telling.chronicle)
    (happening : Happening) (inHand : ∀ token, happening = .step (.refresh token) → handed token) :
    (∀ point ∈ telling.points happening, InCustody telling handed origin point) ∧
      InCustody telling handed origin (telling.after happening).chronicle := by
  cases happening with
  | step step =>
    have careful : Careful telling.session.configuration.service
        telling.session.configuration.site handed origin (telling.programOf step) :=
      step_careful _ _ step fun token same => inHand token (same ▸ rfl)
    have holds := careful telling.chronicle custody
    refine ⟨holds.points, ?_⟩
    rw [chronicle_after_step]
    exact holds.last
  | pass milliseconds =>
    have passed : InCustody telling handed origin (telling.after (.pass milliseconds)).chronicle :=
      custody.unchanged rfl rfl
    refine ⟨fun point member => ?_, passed⟩
    rw [List.mem_singleton.mp member]
    exact passed

/-- A whole run keeps custody at each of its points. The induction is on what happens. -/
theorem custody_run (happenings : List Happening)
    (custody : InCustody telling handed origin telling.chronicle)
    (inHand : ∀ token, .step (.refresh token) ∈ happenings → handed token) :
    (∀ point ∈ telling.allPoints happenings, InCustody telling handed origin point) ∧
      InCustody telling handed origin (telling.run happenings).chronicle := by
  induction happenings generalizing telling with
  | nil => exact ⟨fun point member => absurd member List.not_mem_nil, custody⟩
  | cons happening rest inductionHypothesis =>
    have one := custody_after custody happening
      fun token same => inHand token (same ▸ List.mem_cons_self)
    have moved : InCustody (telling.after happening) handed origin
        (telling.after happening).chronicle := by
      simp only [InCustody, configuration_after]
      exact one.2
    have others := inductionHypothesis moved
      fun token member => inHand token (List.mem_cons_of_mem _ member)
    simp only [InCustody, configuration_after] at others
    refine ⟨fun point member => ?_, others.2⟩
    rcases List.mem_append.mp member with early | late
    · exact one.1 point early
    · exact others.1 point late

end DashboardTools
