import DashboardTools.Proofs.Credential.Alike
import DashboardTools.Proofs.Http.Building
import DashboardTools.Proofs.Service.Authorizing

/-!
# Sessions that differ in their tokens

Two sessions may hold different tokens and be granted different ones. The programs of the service
then ask for the same effects on both sides, up to tokens: a call differs in its bearer header and a
renewal in the refresh token of its body, and both differ in nothing else. The answers of both sides
are then the same up to tokens as well, since only the two token endpoints are given leave to answer
differently, and nothing but the credential file ever takes up what they grant.
-/

namespace DashboardTools

open DashboardTools.Api
open DashboardTools.Credential
open DashboardTools.Disk
open DashboardTools.Http
open DashboardTools.Json
open DashboardTools.Text

namespace Service

/-- A request asks one of the token endpoints for tokens: it renews a session, or polls. -/
def AsksForTokens (service : Service) (request : Request) : Prop :=
  (∃ token, (service.refreshPlan token).build = .ok request) ∨
    ∃ deviceCode, (service.pollPlan deviceCode).build = .ok request

/-- Two requests are the same, but for the token in the header of a call or in the body of a
renewal. -/
inductive RequestsAlike (service : Service) : Request → Request → Prop where
  | same (request : Request) : RequestsAlike service request request
  | call {request : Request} (path : String) (options : RequestOptions) (token other : String)
    (users : List (List Char)) (built : (service.callPlan token path options).build = .ok request)
    (headers : request.authorization = users ++ [bearer token.toList]) :
    RequestsAlike service request
      { request with authorization := users ++ [bearer other.toList] }
  | renewal {request : Request} (token other : String)
    (built : (service.refreshPlan token).build = .ok request) :
    RequestsAlike service request { request with body? := some (refreshBody other) }

/-- Two replies are the same, or both report success by the same status and state alike grants. -/
inductive RepliesAlike : Reply → Reply → Prop where
  | same (reply : Reply) : RepliesAlike reply reply
  | granted {reply other : Reply} {grant otherGrant : TokenGrant} (success : reply.isSuccess = true)
    (status : reply.status = other.status) (states : grantOfBody? reply.body? = some grant)
    (otherStates : grantOfBody? other.body? = some otherGrant) (alike : grant.Alike otherGrant) :
    RepliesAlike reply other

/-- What becomes of a request on both sides is the same, unless it asks for tokens: the replies may
then grant different ones. -/
inductive OutcomesAlike (service : Service) (request : Request) : Outcome → Outcome → Prop where
  | same (outcome : Outcome) : OutcomesAlike service request outcome outcome
  | granted {reply other : Reply} (delay : Nat) (asks : service.AsksForTokens request)
    (alike : RepliesAlike reply other) :
    OutcomesAlike service request (.replied delay reply) (.replied delay other)

variable {service : Service}

/-- Requests that differ in no more than a token go to the same address. -/
theorem RequestsAlike.url {request other : Request} (alike : service.RequestsAlike request other) :
    request.url = other.url := by
  cases alike <;> rfl

/-- Replies that differ in no more than their grants are both a success or both a failure. -/
theorem RepliesAlike.success {reply other : Reply} (alike : RepliesAlike reply other) :
    reply.isSuccess = other.isSuccess := by
  cases alike with
  | same => rfl
  | granted success status states otherStates grants => rw [Reply.isSuccess, Reply.isSuccess, status]

/-- Replies that report no success are the same, since only grants may differ and only successes
bring them. -/
theorem RepliesAlike.eq_of_failure {reply other : Reply} (alike : RepliesAlike reply other)
    (failure : reply.isSuccess = false) : reply = other := by
  cases alike with
  | same => rfl
  | granted success status states otherStates grants =>
    rw [success] at failure
    cases failure

/-- Of replies that are alike, grants are read that are alike, or none is read of either. -/
theorem RepliesAlike.grants {reply other : Reply} (alike : RepliesAlike reply other) :
    Option.Rel TokenGrant.Alike (grantOfBody? reply.body?) (grantOfBody? other.body?) := by
  cases alike with
  | same =>
    cases grantOfBody? reply.body? with
    | none => exact .none
    | some grant => exact .some (.refl grant)
  | granted success status states otherStates grants =>
    rw [states, otherStates]
    exact .some grants

/-- The body of a plan has no part in whether a request can be built. -/
theorem build_withBody (plan : Plan) (body? : Option Value) :
    ({ plan with body? := body? } : Plan).build =
      plan.build.map fun request => { request with body? := body? } := by
  unfold Plan.build
  cases Url.parse? plan.address.toList with
  | none => rfl
  | some url =>
    dsimp only
    split
    · rfl
    · split
      · rfl
      · split <;> rfl

/-- Of the token of a plan only its header depends, if it can be sent. -/
theorem build_withToken (plan : Plan) {token other : String}
    (carried : canCarry token = canCarry other) :
    AgreeUpTo (fun request otherRequest => ∃ users,
        request.authorization = users ++ [bearer token.toList] ∧
          otherRequest = { request with authorization := users ++ [bearer other.toList] })
      ({ plan with token? := some token } : Plan).build
      ({ plan with token? := some other } : Plan).build := by
  have legal : ([token].map fun token => bearer token.toList).all isHeaderText =
      ([other].map fun token => bearer token.toList).all isHeaderText := by
    simpa [canCarry] using carried
  unfold Plan.build
  cases Url.parse? plan.address.toList with
  | none => exact .error _
  | some url =>
    dsimp only [Option.toList_some]
    rw [legal]
    split
    · exact .error _
    · split
      · exact .error _
      · split
        · exact .error _
        · exact .ok ⟨_, rfl, rfl⟩

/-- The same call under two tokens that a header can carry comes to alike requests. If neither can
be carried, it fails alike. -/
theorem call_built_alike (service : Service) (path : String) (options : RequestOptions)
    {token other : String} (carried : canCarry token = canCarry other) :
    AgreeUpTo service.RequestsAlike (service.callPlan token path options).build
      (service.callPlan other path options).build := by
  have built := build_withToken (service.callPlan token path options) carried
  change AgreeUpTo _ (service.callPlan token path options).build
    (service.callPlan other path options).build at built
  generalize building : (service.callPlan token path options).build = one at built ⊢
  generalize (service.callPlan other path options).build = two at built ⊢
  cases built with
  | error cause => exact .error cause
  | ok requests =>
    obtain ⟨users, headers, rfl⟩ := requests
    exact .ok (.call path options token other users building headers)

/-- Renewals of two tokens come to alike requests, since the token stands in the body and a body can
hold any text. -/
theorem renewal_built_alike (service : Service) (token other : String) :
    AgreeUpTo service.RequestsAlike (service.refreshPlan token).build
      (service.refreshPlan other).build := by
  have built := build_withBody (service.refreshPlan token) (some (refreshBody other))
  change (service.refreshPlan other).build = _ at built
  rw [built]
  cases building : (service.refreshPlan token).build with
  | error cause => exact .error cause
  | ok request => exact .ok (.renewal token other building)

variable {plan : Plan} {request : Request}

/-- A request made for a call never asks for tokens: its method, address or body tells it from a
renewal and from a poll. -/
theorem call_asksForNone {token path : String} {options : RequestOptions}
    (built : (service.callPlan token path options).build = .ok request) :
    ¬ service.AsksForTokens request := by
  have header := (Plan.bearer_mem_iff built token).mpr rfl
  rintro (⟨other, renews⟩ | ⟨deviceCode, polls⟩)
  · cases (Plan.bearer_mem_iff renews token).mp header
  · cases (Plan.bearer_mem_iff polls token).mp header

/-- The request that starts a login never asks for tokens. It asks for a code, which has an address
of its own. -/
theorem device_asksForNone (built : service.devicePlan.build = .ok request) :
    ¬ service.AsksForTokens request := by
  have body := (Plan.build_eq_ok built).2.1
  rintro (⟨token, renews⟩ | ⟨deviceCode, polls⟩)
  · have other := body.symm.trans (Plan.build_eq_ok renews).2.1
    simp [devicePlan, refreshPlan, authPlan, refreshBody] at other
  · have other := body.symm.trans (Plan.build_eq_ok polls).2.1
    simp [devicePlan, pollPlan, authPlan, pollBody] at other

/-- A request for documentation never asks for tokens. It is a GET request, and tokens are asked for
by POST. -/
theorem docs_asksForNone {site : Docs.Site} (built : site.plan.build = .ok request) :
    ¬ service.AsksForTokens request := by
  have body := (Plan.build_eq_ok built).2.1
  rintro (⟨token, renews⟩ | ⟨deviceCode, polls⟩)
  · cases body.symm.trans (Plan.build_eq_ok renews).2.1
  · cases body.symm.trans (Plan.build_eq_ok polls).2.1

/-- Two effects are the same, but for tokens in what is saved and in what is sent. -/
inductive EffectsAlike (service : Service) : (γ : Type) → Effect γ → Effect γ → Prop where
  | same {γ : Type} (effect : Effect γ) : EffectsAlike service γ effect effect
  | save {credential other : Credential} (path : Path) (alike : credential.Alike other) :
    EffectsAlike service _ (.save path credential) (.save path other)
  | exchange {request other : Request} (alike : service.RequestsAlike request other) :
    EffectsAlike service _ (.exchange request) (.exchange other)

/-- Two answers to effects that are alike: a load may bring other tokens, and so may a reply to a
request that asks for them. -/
def AnswersAlike (service : Service) : (γ : Type) → Effect γ → γ → γ → Prop
  | _, .load _, loaded, other => Option.Rel Credential.Alike loaded other
  | _, .exchange request, reply?, other? =>
    Option.Rel RepliesAlike reply? other? ∧ (¬ service.AsksForTokens request → reply? = other?)
  | _, .save _ _, result, other => result = other
  | _, .clear _, done, other => done = other
  | _, .wallClock, now, other => now = other
  | _, .monotonicClock, now, other => now = other
  | _, .sleep _, done, other => done = other
  | _, .print _, done, other => done = other

/-- Two session programs ask for the same but for tokens, and end alike. -/
abbrev InStep (service : Service) {α β : Type} (post : α → β → Prop) (program : SessionProgram α)
    (other : SessionProgram β) : Prop :=
  Program.InStep service.EffectsAlike service.AnswersAlike post program other

/-- An effect whose answers are the same on both sides. -/
theorem ask_inStep {α : Type} {effect : Effect α}
    (decided : ∀ answer other, service.AnswersAlike α effect answer other → answer = other) :
    service.InStep Eq (SessionProgram.ask effect) (SessionProgram.ask effect) :=
  .ask (.same effect) decided

/-- Sending alike requests brings alike replies, and the same ones unless tokens are asked for. -/
theorem send_inStep {plan other : Plan}
    (requests : AgreeUpTo service.RequestsAlike plan.build other.build) :
    service.InStep (fun sent otherSent => AgreeUpTo RepliesAlike sent otherSent ∧
        ((∀ request, plan.build = .ok request → ¬ service.AsksForTokens request) →
          sent = otherSent)) plan.send other.send := by
  unfold Plan.send
  generalize plan.build = one at requests ⊢
  generalize other.build = two at requests ⊢
  cases requests with
  | error cause => exact .value ⟨.error _, fun _ => rfl⟩
  | @ok request otherRequest alike =>
    refine .sequence (.ask (.exchange alike) fun _ _ answers => answers) ?_
    rintro reply? other? ⟨replies, decided⟩
    cases replies with
    | none =>
      rw [alike.url]
      exact .value ⟨.error _, fun _ => rfl⟩
    | some reply =>
      refine .value ⟨.ok reply, fun plain => ?_⟩
      rw [Option.some.inj (decided (plain request rfl))]

/-- Sending a request that asks for no tokens brings the same on both sides. -/
theorem send_inStep_same
    (plain : ∀ request, plan.build = .ok request → ¬ service.AsksForTokens request) :
    service.InStep Eq plan.send plan.send :=
  (send_inStep (.of_eq (fun request => .same request) rfl)).weaken fun _ _ sent => sent.2 plain

/-- Alike grants are kept as alike credentials, or neither is kept because the save fails alike. -/
theorem keepGrant_inStep {grant other : TokenGrant} (alike : grant.Alike other) :
    service.InStep (AgreeUpTo Credential.Alike) (service.keepGrant grant)
      (service.keepGrant other) := by
  refine .sequence (ask_inStep fun _ _ => id) ?_
  rintro now _ rfl
  refine .sequence (.ask (.save service.credentialFile (ofGrant_alike alike now)) fun _ _ => id) ?_
  rintro result _ rfl
  cases result with
  | ok done => exact .value (.ok (ofGrant_alike alike now))
  | error problem => exact .value (.error problem)

/-- Renewing with either of two tokens stays in step, and ends with alike credentials or with none
on both sides. -/
theorem refresh_inStep (service : Service) (token other : String) :
    service.InStep (Option.Rel Credential.Alike) (service.refresh? token)
      (service.refresh? other) := by
  refine .sequence (send_inStep (service.renewal_built_alike token other)) ?_
  rintro sent otherSent ⟨replies, _⟩
  cases replies with
  | error cause => exact .value .none
  | @ok reply otherReply alike =>
    dsimp only
    rw [← alike.success]
    split
    · exact .sequence (ask_inStep fun _ _ => id) fun _ _ _ => .value .none
    · have grants := alike.grants
      generalize grantOfBody? reply.body? = one at grants ⊢
      generalize grantOfBody? otherReply.body? = two at grants ⊢
      cases grants with
      | none => exact .value .none
      | some grants =>
        refine .sequence (keepGrant_inStep grants) ?_
        rintro _ _ (problem | credentials)
        · exact .value .none
        · exact .value (.some credentials)

/-- The token at hand is there on both sides or on neither, and can be sent on both or on
neither. -/
theorem accessToken_inStep (service : Service) :
    service.InStep (Option.Rel fun token other => canCarry token = canCarry other)
      service.accessToken? service.accessToken? := by
  refine .sequence (.ask (.same _) fun _ _ => id) ?_
  intro loaded otherLoaded credentials
  cases credentials with
  | none => exact .value .none
  | some alike =>
    refine .sequence (ask_inStep fun _ _ => id) ?_
    rintro now _ rfl
    rw [alike.needsRefresh now]
    split
    · refine .sequence (service.refresh_inStep _ _) ?_
      intro renewed otherRenewed credentials
      cases credentials with
      | none => exact .value .none
      | some renewed => exact .value (.some renewed.carried)
    · exact .value (.some alike.carried)

/-- Receiving the same reply to a call stays in step with itself: clearing the file is all that it
may do. -/
theorem receive_inStep (service : Service) (reply : Reply) :
    service.InStep Eq (service.receive reply) (service.receive reply) := by
  unfold receive
  split
  · exact .sequence (ask_inStep fun _ _ => id) fun _ _ _ => .value rfl
  · split
    · exact .value rfl
    · split <;> exact .value rfl

/-- A call ends the same whatever the tokens are, and leaves alike disks behind. -/
theorem callForBody_inStep (service : Service) (path : String) (options : RequestOptions) :
    service.InStep Eq (service.callForBody path options) (service.callForBody path options) := by
  refine .sequence service.accessToken_inStep ?_
  intro token? otherToken? tokens
  cases tokens with
  | none => exact .value rfl
  | some carried =>
    refine .sequence (send_inStep (service.call_built_alike path options carried)) ?_
    rintro sent _ ⟨_, decided⟩
    obtain rfl := decided fun request built => call_asksForNone built
    cases sent with
    | error cause => exact .value rfl
    | ok reply => exact service.receive_inStep reply

/-- A call stays in step with itself on worlds that differ in no more than tokens, and answers the
same on both. -/
theorem call_inStep (service : Service) (path : String) (options : RequestOptions) :
    service.InStep Eq (service.call path options) (service.call path options) := by
  refine .sequence (service.callForBody_inStep path options) ?_
  rintro outcome _ rfl
  cases outcome <;> exact .value rfl

/-- A call for nothing stays in step with itself on worlds that differ in no more than tokens. -/
theorem callForNothing_inStep (service : Service) (path : String) (options : RequestOptions) :
    service.InStep Eq (service.callForNothing path options)
      (service.callForNothing path options) := by
  refine .sequence (service.callForBody_inStep path options) ?_
  rintro outcome _ rfl
  cases outcome <;> exact .value rfl

/-- Starting a login stays in step with itself, since no token is involved in it. -/
theorem startDevice_inStep (service : Service) :
    service.InStep Eq service.startDevice service.startDevice := by
  refine .sequence (send_inStep_same fun request built => device_asksForNone built) ?_
  rintro sent _ rfl
  cases sent with
  | error cause => exact .value rfl
  | ok reply =>
    dsimp only
    split
    · exact .value rfl
    · split <;> exact .value rfl

/-- Two polls find the same, or both are granted tokens. -/
inductive PollsAlike : PollOutcome → PollOutcome → Prop where
  | same (outcome : PollOutcome) : PollsAlike outcome outcome
  | granted {grant other : TokenGrant} (alike : grant.Alike other) :
    PollsAlike (.granted grant) (.granted other)

/-- Receiving alike replies to a poll stays in step. A grant is saved on both sides, and the
outcomes are alike. -/
theorem receivePoll_inStep {reply other : Reply} (alike : RepliesAlike reply other) :
    service.InStep (AgreeUpTo PollsAlike) (service.receivePoll reply)
      (service.receivePoll other) := by
  cases success : reply.isSuccess with
  | false =>
    obtain rfl := alike.eq_of_failure success
    unfold receivePoll
    split
    · exact .value (.of_eq .same rfl)
    · simp only [success, Bool.not_false, if_true]
      exact .value (.error _)
  | true =>
    have otherSuccess := alike.success.symm.trans success
    have notBad {reply : Reply} (success : reply.isSuccess = true) : reply.status ≠ 400 := by
      intro bad
      simp [Reply.isSuccess, bad] at success
    unfold receivePoll
    rw [if_neg (notBad success), if_neg (notBad otherSuccess), success, otherSuccess]
    have grants := alike.grants
    generalize grantOfBody? reply.body? = one at grants ⊢
    generalize grantOfBody? other.body? = two at grants ⊢
    cases grants with
    | none => exact .value (.error _)
    | some grants =>
      refine .sequence (keepGrant_inStep grants) ?_
      rintro _ _ (problem | credentials)
      · exact .value (.error _)
      · exact .value (.ok (.granted grants))

/-- A poll stays in step with itself, and ends on both sides in the same way or with alike
grants. -/
theorem poll_inStep (service : Service) (deviceCode : String) :
    service.InStep (AgreeUpTo PollsAlike) (service.poll deviceCode) (service.poll deviceCode) := by
  refine .sequence (send_inStep (.of_eq (fun request => .same request) rfl)) ?_
  rintro _ _ ⟨cause | alike, _⟩
  · exact .value (.error _)
  · exact receivePoll_inStep alike

/-- Fetching documentation again stays in step with itself, since nothing that is sent or kept for
it holds a token. -/
theorem refetch_inStep (site : Docs.Site) (cached? : Option Docs.Cached) :
    service.InStep Eq (site.refetch cached?) (site.refetch cached?) := by
  refine .sequence (send_inStep_same fun request built => docs_asksForNone built) ?_
  rintro sent _ rfl
  cases sent with
  | error cause => exact .value rfl
  | ok reply =>
    dsimp only
    split
    · exact .value rfl
    · refine .sequence (ask_inStep fun _ _ => id) ?_
      rintro now _ rfl
      exact .value rfl

/-- Serving documentation stays in step with itself, whatever is kept of it. -/
theorem fetch_inStep (site : Docs.Site) (cached? : Option Docs.Cached) :
    service.InStep Eq (site.fetch cached?) (site.fetch cached?) := by
  cases cached? with
  | none => exact refetch_inStep site none
  | some cached =>
    refine .sequence (ask_inStep fun _ _ => id) ?_
    rintro now _ rfl
    split
    · exact .value rfl
    · exact refetch_inStep site _

/-- Searching the documentation stays in step with itself and finds the same. -/
theorem search_inStep (site : Docs.Site) (cached? : Option Docs.Cached) (query : String)
    (category? : Option Docs.Category) (limit? : Option Nat) :
    service.InStep Eq (site.search cached? query category? limit?)
      (site.search cached? query category? limit?) := by
  refine .sequence (fetch_inStep site cached?) ?_
  rintro fetched _ rfl
  exact .value rfl

/-- Looking up a page stays in step with itself and finds the same. -/
theorem page_inStep (site : Docs.Site) (cached? : Option Docs.Cached) (path : String) :
    service.InStep Eq (site.page cached? path) (site.page cached? path) := by
  refine .sequence (fetch_inStep site cached?) ?_
  rintro fetched _ rfl
  exact .value rfl

end Service

end DashboardTools
