import DashboardTools.Command.Run
import DashboardTools.Proofs.Session.Abreast
import DashboardTools.Proofs.Session.Runs
import DashboardTools.Proofs.Session.Tokens
import DashboardTools.Proofs.Tool.Calls

/-!
# Tokens stay unseen

Two sessions begin alike and take the same steps on networks that answer alike: what differs are the
tokens in the credential file and those that the token endpoints grant. Every program of a step is
in step with itself then, so each effect leaves the two sessions alike, and by induction every run
does. The user and the assistant are shown the same in both, and the requests differ in tokens only.

What is seen here are the lines printed and the answers. Lines that are logged for an operator are
outside of the world, so nothing is proved of them; no token is handed to the places that log.
-/

namespace DashboardTools

open DashboardTools.Credential
open DashboardTools.Disk
open DashboardTools.Http
open DashboardTools.Json
open DashboardTools.Service
open DashboardTools.Text

variable {service : Service}

/-- Printing the same lines stays in step with itself, since nothing that is printed can depend on a
token. -/
theorem printAll_inStep (lines : List String) :
    service.InStep Eq (Command.printAll lines) (Command.printAll lines) := by
  induction lines with
  | nil => exact .value rfl
  | cons line rest inductionHypothesis =>
    exact .sequence (ask_inStep fun _ _ => id) fun _ _ _ => inductionHypothesis

/-- Polling until an end stays in step with itself, and ends alike: with alike grants or with the
same error. -/
theorem pollUntil_inStep (deviceCode : String) (interval deadline fuel : Nat) :
    service.InStep (AgreeUpTo TokenGrant.Alike)
      (Command.pollUntil service deviceCode interval deadline fuel)
      (Command.pollUntil service deviceCode interval deadline fuel) := by
  induction fuel with
  | zero => exact .value (.error _)
  | succ fuel inductionHypothesis =>
    refine .sequence (ask_inStep fun _ _ => id) fun _ _ _ => ?_
    refine .sequence (service.poll_inStep deviceCode) ?_
    intro polled otherPolled polls
    cases polls with
    | error cause => exact .value (.error _)
    | @ok outcome other outcomes =>
      cases outcomes with
      | granted grants => exact .value (.ok grants)
      | same =>
        cases outcome with
        | granted grant => exact .value (.ok (.refl grant))
        | expired => exact .value (.error _)
        | denied => exact .value (.error _)
        | pending =>
          refine .sequence (ask_inStep fun _ _ => id) ?_
          rintro now _ rfl
          split
          · exact inductionHypothesis
          · exact .value (.error _)

/-- Logging in stays in step with itself, and ends with alike grants or with the same failure. -/
theorem login_inStep (service : Service) :
    service.InStep (AgreeUpTo TokenGrant.Alike) (Command.login service) (Command.login service) := by
  refine .sequence service.startDevice_inStep ?_
  rintro outcome _ rfl
  cases outcome with
  | error error => exact .value (.error _)
  | ok authorization =>
    refine .sequence (printAll_inStep _) fun _ _ _ => ?_
    refine .sequence (ask_inStep fun _ _ => id) ?_
    rintro now _ rfl
    split
    · exact .value (.error _)
    · exact pollUntil_inStep _ _ _ _

/-- A login prints no token and ends the same, whatever tokens it is granted. -/
theorem runLogin_inStep (configuration : Configuration) :
    configuration.service.InStep Eq (Command.runLogin configuration)
      (Command.runLogin configuration) := by
  refine .sequence (login_inStep configuration.service) ?_
  intro outcome otherOutcome grants
  cases grants with
  | error failure => exact .value rfl
  | ok alike =>
    refine .sequence (ask_inStep fun _ _ => id) fun _ _ _ => ?_
    exact .sequence (ask_inStep fun _ _ => id) fun _ _ _ => .value rfl

/-- The line about a session depends on when its token expires and on no token. -/
theorem statusLine_alike {credential? other? : Option Credential}
    (alike : Option.Rel Credential.Alike credential? other?) (now : Float) :
    Command.statusLine credential? now = Command.statusLine other? now := by
  cases alike with
  | none => rfl
  | some credentials =>
    simp only [Command.statusLine, credentials.expiry, credentials.needsRefresh now]

/-- The status command stays in step with itself. Of the credential it shows only when it
expires. -/
theorem runStatus_inStep (configuration : Configuration) :
    service.InStep Eq (Command.runStatus configuration) (Command.runStatus configuration) := by
  refine .sequence (ask_inStep fun _ _ => id) fun _ _ _ => ?_
  refine .sequence (ask_inStep fun _ _ => id) ?_
  rintro now _ rfl
  refine .sequence (.ask (.same _) fun _ _ => id) ?_
  intro loaded otherLoaded alike
  rw [statusLine_alike alike now]
  refine .sequence (ask_inStep fun _ _ => id) fun _ _ _ => ?_
  exact .sequence (ask_inStep fun _ _ => id) fun _ _ _ => ask_inStep fun _ _ => id

/-- The logout command stays in step with itself. The file is cleared on both sides, whatever it
held. -/
theorem runLogout_inStep (configuration : Configuration) :
    service.InStep Eq (Command.runLogout configuration) (Command.runLogout configuration) :=
  .sequence (ask_inStep fun _ _ => id) fun _ _ _ => ask_inStep fun _ _ => id

/-- A command ends the same, and so with the same complaint. -/
theorem action_inStep (configuration : Configuration) (action : Command.Action) :
    configuration.service.InStep Eq (action.program configuration)
      (action.program configuration) := by
  cases action with
  | serve => exact .value rfl
  | login =>
    refine .sequence (runLogin_inStep configuration) ?_
    rintro outcome _ rfl
    cases outcome <;> exact .value rfl
  | status => exact .sequence (runStatus_inStep configuration) fun _ _ _ => .value rfl
  | logout => exact .sequence (runLogout_inStep configuration) fun _ _ _ => .value rfl

/-- The result of a poll tells whether a token was granted and not which. -/
theorem pollResult_alike {outcome other : Except AuthError PollOutcome}
    (alike : AgreeUpTo PollsAlike outcome other) :
    Tool.pollResult outcome = Tool.pollResult other := by
  cases alike with
  | error cause => rfl
  | ok outcomes => cases outcomes <;> rfl

/-- Calling a tool's endpoint stays in step with itself and comes to the same finding. -/
theorem callEndpoint_inStep (tool : Tool) (given : Tool.Given) (method : String)
    (endpoint : List Tool.Segment) (use : Tool.InputUse) :
    service.InStep Eq (tool.callEndpoint service given method endpoint use)
      (tool.callEndpoint service given method endpoint use) := by
  unfold Tool.callEndpoint
  split
  · exact .value rfl
  · exact service.call_inStep _ _

/-- What a tool does stays in step with itself: a call of its endpoint, a poll, or a look into the
documentation. -/
theorem perform_inStep (tool : Tool) (server : ToolServer) (cached? : Option Docs.Cached)
    (given : Tool.Given) :
    server.service.InStep Eq (tool.perform server cached? given)
      (tool.perform server cached? given) := by
  unfold Tool.perform
  split
  · refine .sequence server.service.startDevice_inStep ?_
    rintro outcome _ rfl
    exact .value rfl
  · refine .sequence (server.service.poll_inStep _) fun outcome other alike => ?_
    rw [pollResult_alike alike]
    exact .value rfl
  · refine .sequence (search_inStep _ _ _ _ _) ?_
    rintro found _ rfl
    exact .value rfl
  · refine .sequence (page_inStep _ _ _) ?_
    rintro found _ rfl
    exact .value rfl
  · refine .sequence (callEndpoint_inStep _ _ _ _ _) ?_
    rintro outcome _ rfl
    exact .value rfl

/-- Calling a tool by its name stays in step with itself and answers the same result. -/
theorem callTool_inStep (server : ToolServer) (cached? : Option Docs.Cached) (name : String)
    (fields : List (String × Value)) :
    server.service.InStep Eq (server.call cached? name fields) (server.call cached? name fields) := by
  unfold ToolServer.call
  split
  · exact .value rfl
  · split
    · exact .value rfl
    · refine .sequence (perform_inStep _ server cached? _) ?_
      rintro result _ rfl
      exact .value rfl

/-- The answer to a step is a token, or has one in it. None of these steps is a tool call or a
command. -/
def Step.handsOutTokens : Step → Bool
  | .loadCredential => true
  | .accessToken => true
  | .refresh _ => true
  | .poll _ => true
  | _ => false

/-- A step is in step with itself: it ends the same unless it hands out tokens, and keeps the same
of the documentation. -/
theorem step_inStep (configuration : Configuration) (caches : Caches) (step : Step) :
    configuration.service.InStep
      (fun ended otherEnded => (step.handsOutTokens = false → ended.1 = otherEnded.1) ∧
        ended.2 = otherEnded.2)
      (step.program configuration caches) (step.program configuration caches) := by
  cases step with
  | loadCredential =>
    exact .sequence (.ask (.same _) fun _ _ => id) fun _ _ _ => .value ⟨nofun, rfl⟩
  | clearCredential =>
    exact .sequence (ask_inStep fun _ _ => id) fun _ _ _ => .value ⟨fun _ => rfl, rfl⟩
  | accessToken =>
    exact .sequence configuration.service.accessToken_inStep fun _ _ _ => .value ⟨nofun, rfl⟩
  | isAuthenticated =>
    refine .sequence configuration.service.accessToken_inStep fun token? other? tokens => ?_
    cases tokens <;> exact .value ⟨fun _ => rfl, rfl⟩
  | apiBase => exact .value ⟨fun _ => rfl, rfl⟩
  | refresh token =>
    exact .sequence (configuration.service.refresh_inStep token token) fun _ _ _ =>
      .value ⟨nofun, rfl⟩
  | call path options =>
    refine .sequence (configuration.service.call_inStep path options) ?_
    rintro outcome _ rfl
    exact .value ⟨fun _ => rfl, rfl⟩
  | callForNothing path options =>
    refine .sequence (configuration.service.callForNothing_inStep path options) ?_
    rintro outcome _ rfl
    exact .value ⟨fun _ => rfl, rfl⟩
  | startDevice =>
    refine .sequence configuration.service.startDevice_inStep ?_
    rintro outcome _ rfl
    exact .value ⟨fun _ => rfl, rfl⟩
  | poll deviceCode =>
    exact .sequence (configuration.service.poll_inStep deviceCode) fun _ _ _ => .value ⟨nofun, rfl⟩
  | fetchDocs =>
    refine .sequence (fetch_inStep _ _) ?_
    rintro fetched _ rfl
    exact .value ⟨fun _ => rfl, rfl⟩
  | searchDocs query category? limit? =>
    refine .sequence (search_inStep _ _ _ _ _) ?_
    rintro found _ rfl
    exact .value ⟨fun _ => rfl, rfl⟩
  | getDoc path =>
    refine .sequence (page_inStep _ _ _) ?_
    rintro found _ rfl
    exact .value ⟨fun _ => rfl, rfl⟩
  | forgetDocs => exact .value ⟨fun _ => rfl, rfl⟩
  | login =>
    refine .sequence (runLogin_inStep configuration) ?_
    rintro outcome _ rfl
    exact .value ⟨fun _ => rfl, rfl⟩
  | status =>
    exact .sequence (runStatus_inStep configuration) fun _ _ _ => .value ⟨fun _ => rfl, rfl⟩
  | logout =>
    exact .sequence (runLogout_inStep configuration) fun _ _ _ => .value ⟨fun _ => rfl, rfl⟩
  | callTool name fields =>
    refine .sequence (callTool_inStep configuration.toolServer _ name fields) ?_
    rintro outcome _ rfl
    exact .value ⟨fun _ => rfl, rfl⟩

/-- Two sessions are the same but for tokens. What their networks answer is left open. -/
structure Session.Alike (session other : Session) : Prop where
  configuration : session.configuration = other.configuration
  caches : session.caches = other.caches
  world : session.configuration.service.WorldsAlike session.world other.world

namespace Telling

/-- What is answered while something happens, unless it hands out tokens. -/
def shownBy (telling : Telling) : Happening → List Answer
  | .step step => if step.handsOutTokens then [] else [(telling.session.take step).1]
  | .pass _ => []

/-- All answers in a run that hand out no tokens, those of tools and commands among them. -/
def shown (telling : Telling) : List Happening → List Answer
  | [] => []
  | happening :: rest => telling.shownBy happening ++ (telling.after happening).shown rest

/-- Two tellings of alike sessions, the second of them on a network with these outcomes. -/
structure Abreast (outcomes : Nat → Outcome) (telling other : Telling) : Prop where
  configuration : telling.session.configuration = other.session.configuration
  caches : telling.session.caches = other.session.caches
  chronicles : telling.session.configuration.service.Abreast outcomes telling.chronicle
    other.chronicle

end Telling

variable {outcomes : Nat → Outcome} {telling other : Telling}

/-- The answer to a step, in terms of the run that is told of. -/
theorem take_answer (telling : Telling) (step : Step) :
    (telling.session.take step).1 =
      ((telling.programOf step).run Chronicle.handle telling.chronicle).1.1 :=
  congrArg (·.1.1) (Chronicle.run_world (telling.programOf step) telling.chronicle)

/-- After a step the caches are those that the program of the step hands back. -/
theorem caches_after_step (telling : Telling) (step : Step) :
    (telling.after (.step step)).session.caches =
      ((telling.programOf step).run Chronicle.handle telling.chronicle).1.2 :=
  congrArg (·.1.2) (Chronicle.run_world (telling.programOf step) telling.chronicle)

/-- What was answered alike after something happened was answered alike before. -/
theorem answeredAlike_of_after {happening : Happening}
    (answered : service.AnsweredAlike outcomes (telling.after happening).exchanges) :
    service.AnsweredAlike outcomes telling.exchanges := by
  cases happening with
  | step step =>
    exact Program.holds_of_run (fun chronicle => service.AnsweredAlike outcomes chronicle.exchanges)
      answeredAlike_back (telling.programOf step) telling.chronicle answered
  | pass milliseconds => exact answered

/-- Where the exchanges of a whole run are answered alike in another network, so are those before
it. -/
theorem answeredAlike_of_run (happenings : List Happening)
    (answered : service.AnsweredAlike outcomes (telling.run happenings).exchanges) :
    service.AnsweredAlike outcomes telling.exchanges := by
  induction happenings generalizing telling with
  | nil => exact answered
  | cons happening rest inductionHypothesis =>
    exact answeredAlike_of_after (inductionHypothesis answered)

/-- One happening shows the same on both sides and leaves them abreast. -/
theorem Telling.Abreast.after (abreast : Telling.Abreast outcomes telling other)
    (happening : Happening) (answered : telling.session.configuration.service.AnsweredAlike outcomes
      (telling.after happening).exchanges) :
    telling.shownBy happening = other.shownBy happening ∧
      Telling.Abreast outcomes (telling.after happening) (other.after happening) := by
  obtain ⟨configuration, caches, chronicles⟩ := abreast
  cases happening with
  | pass milliseconds =>
    have ⟨⟨alike, requests⟩, network⟩ := chronicles
    exact ⟨rfl, configuration, caches, ⟨alike.advance milliseconds, requests⟩, network⟩
  | step step =>
    have program : other.programOf step = telling.programOf step := by
      rw [programOf, programOf, configuration, caches]
    obtain ⟨⟨answer, kept⟩, next⟩ :=
      (step_inStep telling.session.configuration telling.session.caches step).run_abreast chronicles
        answered
    refine ⟨?_, ?_, ?_, ?_⟩
    · simp only [shownBy, take_answer, program]
      cases handsOut : step.handsOutTokens with
      | true => rfl
      | false => exact congrArg ([·]) (answer handsOut)
    · rw [configuration_after, configuration_after]
      exact configuration
    · rw [caches_after_step, caches_after_step, program]
      exact kept
    · rw [configuration_after, chronicle_after_step, chronicle_after_step, program]
      exact next

/-- A whole run shows the same on both sides and leaves them abreast. The induction is on what
happens; what is answered alike in the end was answered alike all the time. -/
theorem Telling.Abreast.run (abreast : Telling.Abreast outcomes telling other)
    (happenings : List Happening)
    (answered : telling.session.configuration.service.AnsweredAlike outcomes
      (telling.run happenings).exchanges) :
    telling.shown happenings = other.shown happenings ∧
      Telling.Abreast outcomes (telling.run happenings) (other.run happenings) := by
  induction happenings generalizing telling other with
  | nil => exact ⟨rfl, abreast⟩
  | cons happening rest inductionHypothesis =>
    obtain ⟨shown, next⟩ := abreast.after happening (answeredAlike_of_run rest answered)
    have further : (telling.after happening).session.configuration.service.AnsweredAlike outcomes
        ((telling.after happening).run rest).exchanges := by
      rw [configuration_after]
      exact answered
    obtain ⟨others, last⟩ := inductionHypothesis next further
    refine ⟨?_, last⟩
    rw [Telling.shown, Telling.shown, shown, others]

/-- A session and another one that is alike, told of from the beginning, are abreast. -/
theorem Session.Alike.begin {session other : Session} (alike : session.Alike other) :
    Telling.Abreast other.world.outcomes session.begin other.begin :=
  ⟨alike.configuration, alike.caches, ⟨alike.world, .nil⟩, rfl⟩

/-- Tokens are not seen from outside. Take two sessions that are the same but for the tokens in
their files, on networks that answer each request of the first session alike: the same, but for the
tokens that the two token endpoints grant. In every run of both, all answers are the same that hand
out no tokens, and those of tools and commands are among them; the same lines are printed; and the
requests are the same, one by one, but for the bearer headers of calls and the refresh tokens in the
bodies of renewals. Every command line that is configured like the sessions ends the same in their
worlds, and so with the same exit status and the same complaint. -/
theorem tokens_stay_unseen (session other : Session) (alike : session.Alike other) :
    (∀ happenings, session.configuration.service.AnsweredAlike other.world.outcomes
        (session.begin.run happenings).exchanges →
      session.begin.shown happenings = other.begin.shown happenings ∧
        session.configuration.service.ChroniclesAlike (session.begin.run happenings).chronicle
          (other.begin.run happenings).chronicle) ∧
    (∀ environment accountHome? words,
      (∀ line, Command.Line.parse words = .ok line →
        line.configuration environment accountHome? = session.configuration) →
      let ran (session : Session) :=
        (Command.run environment accountHome? words).run Chronicle.handle (.start session.world)
      session.configuration.service.AnsweredAlike other.world.outcomes (ran session).2.exchanges →
      (ran session).1 = (ran other).1 ∧
        session.configuration.service.ChroniclesAlike (ran session).2 (ran other).2) := by
  constructor
  · intro happenings answered
    obtain ⟨shown, abreast⟩ := alike.begin.run happenings answered
    have chronicles := abreast.chronicles.alike
    rw [configuration_run] at chronicles
    exact ⟨shown, chronicles⟩
  · intro environment accountHome? words configured ran answered
    have inStep : session.configuration.service.InStep Eq
        (Command.run environment accountHome? words) (Command.run environment accountHome? words) := by
      unfold Command.run
      cases parsed : Command.Line.parse words with
      | error stop => exact .value rfl
      | ok line =>
        rw [← configured line parsed]
        exact action_inStep _ line.action
    obtain ⟨ending, abreast⟩ := inStep.run_abreast alike.begin.chronicles answered
    exact ⟨ending, abreast.alike⟩

/-- A credential with these tokens, and with one time and one type for all of them. -/
def credentialOf (access refresh : String) : Credential := ⟨access, refresh, 1700000123.5, "Bearer"⟩

/-- A grant of these tokens, as a server writes it. -/
def grantFields (access refresh : String) : String :=
  "\"access_token\":\"" ++ access ++ "\",\"refresh_token\":\"" ++ refresh ++
    "\",\"expires_in\":60,\"token_type\":\"Bearer\""

/-- A disk on which a credential was saved, kept closed so that proofs go by what is known of
saves. -/
@[irreducible] def diskOf (credential : Credential) : Disk :=
  (saveOn 7 samplePath credential Disk.empty).2

/-- Disks that hold alike credentials in the same place are alike. -/
theorem diskOf_alike {credential other : Credential} (credentials : credential.Alike other) :
    Disk.Alike FilesAlike (diskOf credential) (diskOf other) := by
  unfold diskOf
  exact (save_endsAlike (.refl FilesAlike.refl Disk.empty) credentials 7 samplePath).2

/-- A session that holds a credential, on a network that grants tokens to everyone. -/
def sessionOf (credential : Credential) (fields : String) : Session :=
  { sampleSession with
    world :=
      { sampleWorld with
        disk := diskOf credential
        outcomes := fun _ => objectReply 200 fields } }

/-- A session and another one with other tokens, which is granted other tokens. -/
def oneSession : Session := sessionOf (credentialOf "kept" "renew") (grantFields "given" "again")

/-- The same session as the first one, with other tokens in its file and in the answer to its
poll. -/
def otherSession : Session := sessionOf (credentialOf "hidden" "more") (grantFields "secret" "next")

/-- A poll, and then the command that tells about the session. -/
def pollThenStatus : List Happening := [.step (.poll "d"), .step .status]

/-- Asking for the status sends nothing, so a run has no more exchanges after it. -/
theorem exchanges_after_status (telling : Telling) :
    (telling.after (.step .status)).exchanges = telling.exchanges := by
  simp only [Telling.after, Telling.programOf, Step.program, Command.runStatus, SessionProgram.ask,
    Program.run_sequence, Program.run_request, Program.run_pure, Chronicle.handle, Telling.chronicle]

/-- A poll sends its one request, unless that request cannot be built. -/
theorem exchanges_after_poll (telling : Telling) (deviceCode : String) :
    (telling.after (.step (.poll deviceCode))).exchanges = telling.exchanges ++
      ((telling.session.configuration.service.pollPlan deviceCode).exchange?
        telling.session.world).toList := by
  obtain ⟨result, last, polled⟩ :=
    exists_polled telling.session.configuration.service deviceCode telling.session.world
  have ran := Polled.run telling.chronicle polled
  simp only [Telling.after, Telling.programOf, Step.program, Program.run_sequence, Program.run_pure,
    ran]
  rfl

/-- The two sessions are alike: they differ in the tokens of their files and of their answers, and
in nothing else. -/
theorem sessions_alike : oneSession.Alike otherSession := by
  have credentials : (credentialOf "kept" "renew").Alike (credentialOf "hidden" "more") :=
    ⟨rfl, rfl, by decide⟩
  exact ⟨rfl, rfl, diskOf_alike credentials, rfl, rfl, rfl, .nil, rfl, rfl, rfl⟩

/-- Both networks grant a token, each its own, and otherwise answer the same. -/
theorem grants_alike : RepliesAlike ⟨200, some (objectBytes (grantFields "given" "again"))⟩
    ⟨200, some (objectBytes (grantFields "secret" "next"))⟩ := by
  have states : grantOfBody? (some (objectBytes (grantFields "given" "again"))) =
      some ⟨"given", "again", 60, "Bearer"⟩ := by decide +kernel
  have otherStates : grantOfBody? (some (objectBytes (grantFields "secret" "next"))) =
      some ⟨"secret", "next", 60, "Bearer"⟩ := by decide +kernel
  exact .granted (by decide) rfl states otherStates ⟨rfl, rfl, by decide⟩

/-- The only request is the one of the poll, since the status asks for none. -/
theorem pollThenStatus_exchanges : (oneSession.begin.run pollThenStatus).exchanges =
    ((oneSession.configuration.service.pollPlan "d").exchange? oneSession.world).toList := by
  rw [pollThenStatus, Telling.run, List.foldl_cons, List.foldl_cons, List.foldl_nil,
    exchanges_after_status, exchanges_after_poll]
  exact List.nil_append _

/-- Two sessions that differ in their tokens are polled, granted tokens and asked for their status.
What they print is the same. -/
theorem granted_tokens_stay_unseen :
    oneSession.Alike otherSession ∧
      (oneSession.begin.run pollThenStatus).session.world.printed =
        (otherSession.begin.run pollThenStatus).session.world.printed := by
  have unseen := (tokens_stay_unseen oneSession otherSession sessions_alike).1 pollThenStatus
  refine ⟨sessions_alike, (unseen fun exchange member => ?_).2.world.printed⟩
  rw [pollThenStatus_exchanges, Option.mem_toList] at member
  obtain ⟨built, before, _⟩ := Plan.exchange?_eq_some member
  rw [before]
  exact .granted 5 (.inr ⟨"d", built⟩) grants_alike

end DashboardTools
