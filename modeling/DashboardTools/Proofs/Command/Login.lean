import DashboardTools.Command.Auth
import DashboardTools.Proofs.Service.Authorizing
import DashboardTools.Proofs.Service.Calling

/-!
# How a login ends

A login asks for a device code and then polls, a whole interval after the answer to the poll before,
until an answer decides. A pending answer decides only when the time given is over. As every poll
takes at least an interval, that is the case before the polls run out. So a login yields a token
exactly when a poll is granted one and all polls before were pending in time; it fails in all other
cases, sends nothing after the answer that decides, and leaves the credential file as it was.
-/

namespace DashboardTools.Command

open DashboardTools.Credential
open DashboardTools.Disk
open DashboardTools.Http
open DashboardTools.Service
open DashboardTools.Text

/-- The polls that a login would make from a world on if all of them were left undecided. -/
structure Polling where
  service : Service
  deviceCode : String
  /-- How many seconds are slept before each poll. -/
  interval : Nat
  /-- The milliseconds on the monotonic clock from which on a pending poll is the last. -/
  deadline : Nat
  start : World

namespace Polling

/-- The plan of each poll. It is the same for all of them, since the device code does not change. -/
def plan (polling : Polling) : Plan := polling.service.pollPlan polling.deviceCode

/-- The world after some seconds of sleep. Both clocks move on, and the sleep is counted. -/
def asleep (seconds : Nat) (world : World) : World :=
  { world.advance (1000 * seconds) with slept := world.slept + seconds }

/-- The world after some undecided polls, each of them after a sleep of one interval. -/
def after (polling : Polling) : (polls : Nat) → World
  | 0 => polling.start
  | polls + 1 => polling.plan.later (asleep polling.interval (polling.after polls))

/-- The world in which a poll is sent, counted from zero. -/
def asking (polling : Polling) (poll : Nat) : World := asleep polling.interval (polling.after poll)

/-- The exchanges of the first polls, in their order. A poll that cannot be sent makes none. -/
def exchanges (polling : Polling) (polls : Nat) : List Exchange :=
  (List.range polls).flatMap fun poll => (polling.plan.exchange? (polling.asking poll)).toList

/-- A poll is pending, and is answered before the time is over. -/
def PendingInTime (polling : Polling) (poll : Nat) : Prop :=
  ∃ reply, polling.plan.answer (polling.asking poll) = .ok reply ∧ reply.status = 400 ∧
    errorCode? reply.bodyText = some "authorization_pending" ∧
    (polling.after (poll + 1)).monotonic < polling.deadline

/-- A poll is answered with success, its answer states a grant, and the record of the grant, which
expires as long after the answer as it says, is saved. -/
def Grants (polling : Polling) (poll : Nat) (grant : TokenGrant) : Prop :=
  ∃ reply, polling.plan.answer (polling.asking poll) = .ok reply ∧ reply.isSuccess = true ∧
    grantOfBody? reply.body? = some grant ∧
    (polling.service.saving (ofGrant grant (polling.after (poll + 1)).now)
      (polling.after (poll + 1))).1 = .ok ()

/-- How a poll ends the polling: a token is granted, the poll fails, or the code has expired, access
is denied, or the poll is still pending when the time is over. -/
inductive Decides (polling : Polling) (poll : Nat) :
    Except LoginFailure TokenGrant → World → Prop where
  | granted (grant : TokenGrant) {last : World}
    (polled : polling.service.Polled polling.deviceCode (polling.asking poll) (.ok (.granted grant))
      last) : Decides polling poll (.ok grant) last
  | failed (error : AuthError) {last : World}
    (polled : polling.service.Polled polling.deviceCode (polling.asking poll) (.error error) last) :
    Decides polling poll (.error (.error error.toError)) last
  | expired {last : World}
    (polled : polling.service.Polled polling.deviceCode (polling.asking poll) (.ok .expired) last) :
    Decides polling poll (.error expiredFailure) last
  | denied {last : World}
    (polled : polling.service.Polled polling.deviceCode (polling.asking poll) (.ok .denied) last) :
    Decides polling poll (.error deniedFailure) last
  | late {last : World}
    (polled : polling.service.Polled polling.deviceCode (polling.asking poll) (.ok .pending) last)
    (elapsed : polling.deadline ≤ last.monotonic) :
    Decides polling poll (.error expiredFailure) last

variable {polling : Polling}

/-- One more poll adds the exchange it makes to those made before. A poll whose request cannot be
built makes none, so the list may stay as it is. -/
theorem exchanges_succ (polling : Polling) (polls : Nat) :
    polling.exchanges (polls + 1) = polling.exchanges polls ++
      (polling.plan.exchange? (polling.asking polls)).toList := by
  simp [exchanges, List.range_succ]

/-- Sending takes no time or some, but never turns the monotonic clock back. -/
theorem later_monotonic (plan : Plan) (world : World) :
    world.monotonic ≤ (plan.later world).monotonic := by
  unfold Plan.later Plan.exchange?
  cases plan.build with
  | error cause => exact Nat.le_refl _
  | ok request =>
    simp only [Option.map_some, Option.getD_some, Exchange.of, World.exchange]
    cases world.outcomes world.tried with
    | unreachable => exact Nat.le_refl _
    | dropped delay => exact Nat.le_add_right _ _
    | replied delay reply => exact Nat.le_add_right _ _

/-- Each poll takes at least an interval, which is slept before it. What the sending takes comes on
top. -/
theorem after_monotonic (polling : Polling) (polls : Nat) :
    polling.start.monotonic + 1000 * (polls * polling.interval) ≤
      (polling.after polls).monotonic := by
  induction polls with
  | zero => simp [after]
  | succ polls inductionHypothesis =>
    have slept : (polling.asking polls).monotonic =
        (polling.after polls).monotonic + 1000 * polling.interval := rfl
    have answered := later_monotonic polling.plan (polling.asking polls)
    have more : (polls + 1) * polling.interval = polls * polling.interval + polling.interval :=
      Nat.succ_mul _ _
    change _ ≤ (polling.plan.later (polling.asking polls)).monotonic
    omega

/-- An answer is read as pending exactly when its error code is authorization_pending. A slow_down
code, another code or a missing one is something else. -/
theorem refusal_eq_pending_iff (text : String) :
    refusal text = .ok .pending ↔ errorCode? text = some "authorization_pending" := by
  unfold refusal
  split <;> simp_all

/-- A poll that is pending in time leaves the polling undecided. -/
theorem PendingInTime.polled {poll : Nat} (pending : polling.PendingInTime poll) :
    polling.service.Polled polling.deviceCode (polling.asking poll) (.ok .pending)
      (polling.after (poll + 1)) := by
  obtain ⟨reply, answer, bad, code, _⟩ := pending
  rw [← (refusal_eq_pending_iff reply.bodyText).mpr code]
  exact .refused reply answer bad

/-- A poll answered as pending before the deadline is one the login outlives. The wait after it
leads to the world in which the next poll starts. -/
theorem pendingInTime_of_polled {poll : Nat} {last : World}
    (polled : polling.service.Polled polling.deviceCode (polling.asking poll) (.ok .pending) last)
    (early : last.monotonic < polling.deadline) :
    polling.PendingInTime poll ∧ last = polling.after (poll + 1) := by
  obtain ⟨reply, answer, bad, told, reached⟩ := polled.exists_refusal (by simp)
  have code := (refusal_eq_pending_iff reply.bodyText).mp told
  rw [reached] at early ⊢
  exact ⟨⟨reply, answer, bad, code, early⟩, rfl⟩

/-- A poll that is granted a token saves its record. -/
theorem Grants.polled {poll : Nat} {grant : TokenGrant} (grants : polling.Grants poll grant) :
    polling.service.Polled polling.deviceCode (polling.asking poll) (.ok (.granted grant))
      (polling.service.savedWorld (ofGrant grant (polling.after (poll + 1)).now)
        (polling.after (poll + 1))) := by
  obtain ⟨reply, answer, success, states, saved⟩ := grants
  exact .granted reply grant _ answer success states rfl saved

/-- A poll that is granted a token decides for it. -/
theorem Grants.decides {poll : Nat} {grant : TokenGrant} (grants : polling.Grants poll grant)
    {result : Except LoginFailure TokenGrant} {last : World}
    (decides : polling.Decides poll result last) :
    result = .ok grant ∧
      last = polling.service.savedWorld (ofGrant grant (polling.after (poll + 1)).now)
        (polling.after (poll + 1)) := by
  have granted := grants.polled
  cases decides with
  | granted other polled =>
    obtain ⟨same, reached⟩ := granted.unique polled
    exact ⟨by cases same; rfl, reached.symm⟩
  | failed error polled => cases (granted.unique polled).1
  | expired polled => cases (granted.unique polled).1
  | denied polled => cases (granted.unique polled).1
  | late polled elapsed => cases (granted.unique polled).1

/-- Asking for the monotonic clock answers what the world's clock shows and leaves the chronicle as
it is. -/
theorem handle_monotonicClock (chronicle : Chronicle) :
    Chronicle.handle _ .monotonicClock chronicle = (chronicle.world.monotonic, chronicle) :=
  Prod.ext rfl rfl

/-- A poll runs to the ending that it comes to, and adds its exchange to those before. -/
theorem run_poll (polling : Polling) {polls : Nat} {result : Except AuthError PollOutcome}
    {last : World}
    (polled : polling.service.Polled polling.deviceCode (polling.asking polls) result last)
    (before : List Exchange) :
    (polling.service.poll polling.deviceCode).run Chronicle.handle
        ⟨polling.asking polls, before ++ polling.exchanges polls⟩ =
      (result, ⟨last, before ++ polling.exchanges (polls + 1)⟩) := by
  have ran := Polled.run ⟨polling.asking polls, before ++ polling.exchanges polls⟩ polled
  rw [exchanges_succ, ← List.append_assoc]
  exact ran

/-- A poll that is pending in time was sent so early that another interval fits. -/
theorem PendingInTime.early {expiresIn poll : Nat} (pending : polling.PendingInTime poll)
    (given : polling.deadline = polling.start.monotonic + 1000 * expiresIn) :
    (poll + 1) * polling.interval < expiresIn := by
  obtain ⟨_, _, _, _, inTime⟩ := pending
  have elapsed := polling.after_monotonic (poll + 1)
  omega

/-- A poll that is not pending in time decides: it ends in a grant, in a failure, or after the
deadline. -/
theorem exists_decides_of_not_pending {poll : Nat} (ended : ¬ polling.PendingInTime poll) :
    ∃ result last, polling.Decides poll result last := by
  obtain ⟨result, last, polled⟩ :=
    exists_polled polling.service polling.deviceCode (polling.asking poll)
  cases result with
  | error error => exact ⟨_, last, .failed error polled⟩
  | ok outcome =>
    cases outcome with
    | granted grant => exact ⟨_, last, .granted grant polled⟩
    | expired => exact ⟨_, last, .expired polled⟩
    | denied => exact ⟨_, last, .denied polled⟩
    | pending =>
      have elapsed : polling.deadline ≤ last.monotonic := by
        apply Nat.le_of_not_lt
        intro early
        exact ended (pendingInTime_of_polled polled early).1
      exact ⟨_, last, .late polled elapsed⟩

/-- Either all of some polls are pending in time, or one of them is the first to decide. -/
theorem pending_or_decides (polling : Polling) (polls : Nat) :
    (∀ poll < polls, polling.PendingInTime poll) ∨
      ∃ poll < polls, (∀ earlier < poll, polling.PendingInTime earlier) ∧
        ∃ result last, polling.Decides poll result last := by
  induction polls with
  | zero => exact .inl fun poll none => absurd none (Nat.not_lt_zero poll)
  | succ polls inductionHypothesis =>
    rcases inductionHypothesis with pending | ⟨poll, within, decided⟩
    · by_cases next : polling.PendingInTime polls
      · left
        intro poll within
        rcases Nat.lt_succ_iff_lt_or_eq.mp within with before | rfl
        · exact pending poll before
        · exact next
      · exact .inr ⟨polls, Nat.lt_succ_self polls, pending, exists_decides_of_not_pending next⟩
    · exact .inr ⟨poll, Nat.lt_succ_of_lt within, decided⟩

/-- Of as many polls as there are intervals begun in the time given, and of at least one, one
decides. The last of them could only be pending when the time is over. -/
theorem exists_decides (polling : Polling) {expiresIn allowed : Nat}
    (given : polling.deadline = polling.start.monotonic + 1000 * expiresIn) (positive : 0 < allowed)
    (enough : expiresIn ≤ allowed * polling.interval) :
    ∃ poll < allowed, (∀ earlier < poll, polling.PendingInTime earlier) ∧
      ∃ result last, polling.Decides poll result last := by
  apply (polling.pending_or_decides allowed).resolve_left
  intro pending
  obtain ⟨polls, rfl⟩ := Nat.exists_eq_succ_of_ne_zero (Nat.ne_of_gt positive)
  have early := (pending polls (Nat.lt_succ_self polls)).early given
  exact absurd enough (Nat.not_le_of_lt early)

/-- A poll that decides ends the polling, if all polls before it are pending in time and the fuel
lasts for it. The induction is on the fuel, from any of the polls before on. -/
theorem run_pollUntil {poll : Nat} {result : Except LoginFailure TokenGrant} {last : World}
    (pending : ∀ earlier < poll, polling.PendingInTime earlier)
    (decides : polling.Decides poll result last) (before : List Exchange) {fuel polls : Nat}
    (reached : polls ≤ poll) (lasts : poll < polls + fuel) :
    (pollUntil polling.service polling.deviceCode polling.interval polling.deadline fuel).run
        Chronicle.handle ⟨polling.after polls, before ++ polling.exchanges polls⟩ =
      (result, ⟨last, before ++ polling.exchanges (poll + 1)⟩) := by
  induction fuel generalizing polls with
  | zero => omega
  | succ fuel inductionHypothesis =>
    have sleeps : Chronicle.handle _ (.sleep polling.interval)
        ⟨polling.after polls, before ++ polling.exchanges polls⟩ =
      ((), ⟨polling.asking polls, before ++ polling.exchanges polls⟩) := rfl
    rcases Nat.lt_or_eq_of_le reached with earlier | rfl
    · have inTime := pending polls earlier
      have polled := inTime.polled
      obtain ⟨_, _, _, _, early⟩ := inTime
      simp only [pollUntil, SessionProgram.ask, Program.run_sequence, Program.run_request, sleeps,
        polling.run_poll polled, handle_monotonicClock, if_pos early]
      exact inductionHypothesis earlier (by omega)
    · cases decides with
      | granted grant polled | failed error polled | expired polled | denied polled =>
        simp only [pollUntil, SessionProgram.ask, Program.run_sequence, Program.run_request, sleeps,
          polling.run_poll polled, Program.run_pure]
      | late polled elapsed =>
        simp only [pollUntil, SessionProgram.ask, Program.run_sequence, Program.run_request, sleeps,
          polling.run_poll polled, handle_monotonicClock, if_neg (Nat.not_lt_of_le elapsed),
          Program.run_pure]

end Polling

/-- The server gives an authorization: it answers with success, and the answer states one. -/
def Authorizes (service : Service) (world : World) (authorization : DeviceAuthorization) : Prop :=
  ∃ reply, service.devicePlan.answer world = .ok reply ∧ reply.isSuccess = true ∧
    authorizationOf? reply = some authorization

/-- The polling with an authorization in hand. The time given counts from the answer that gave
it. -/
def pollingFor (service : Service) (world : World) (authorization : DeviceAuthorization) : Polling where
  service := service
  deviceCode := authorization.deviceCode
  interval := pollInterval authorization.interval
  deadline := (service.devicePlan.later world).monotonic + 1000 * authorization.expiresIn
  start := { service.devicePlan.later world with
    printed := (service.devicePlan.later world).printed ++ instructions authorization }

/-- The exchange that asks for a device code, and those of the first polls. -/
def exchangesOf (service : Service) (world : World) (authorization : DeviceAuthorization)
    (polls : Nat) : List Exchange :=
  (service.devicePlan.exchange? world).toList ++
    (pollingFor service world authorization).exchanges polls

variable {service : Service} {world : World}

/-- A start that ends with an authorization is one that authorizes: it was answered, the answer was
successful, and its body states the authorization. -/
theorem started_ok_iff {authorization : DeviceAuthorization} :
    service.Started world (.ok authorization) ↔ Authorizes service world authorization := by
  constructor
  · intro started
    cases started with
    | authorized reply _ answer success states => exact ⟨reply, answer, success, states⟩
  · rintro ⟨reply, answer, success, states⟩
    exact .authorized reply authorization answer success states

/-- A server gives one authorization at most in a world, since the world settles what becomes of the
request. -/
theorem Authorizes.unique {authorization other : DeviceAuthorization}
    (first : Authorizes service world authorization) (second : Authorizes service world other) :
    authorization = other :=
  Except.ok.inj ((started_ok_iff.mpr first).unique (started_ok_iff.mpr second))

/-- A server that refuses gives none, so a login cannot both fail at its start and be authorized. -/
theorem not_authorizes_of_started {error : AuthError} (started : service.Started world (.error error))
    (authorization : DeviceAuthorization) : ¬ Authorizes service world authorization := by
  intro authorizes
  cases (started_ok_iff.mpr authorizes).unique started

/-- Printing lines appends them in order to what was printed before. Nothing is sent, and the rest
of the world stays the same. -/
theorem run_printAll (lines : List String) (chronicle : Chronicle) :
    (printAll lines).run Chronicle.handle chronicle =
      ((), ⟨{ chronicle.world with printed := chronicle.world.printed ++ lines },
        chronicle.exchanges⟩) := by
  induction lines generalizing chronicle with
  | nil => simp [printAll]
  | cons line rest inductionHypothesis =>
    have prints : Chronicle.handle _ (.print line) chronicle =
        ((), ⟨{ chronicle.world with printed := chronicle.world.printed ++ [line] },
          chronicle.exchanges⟩) := rfl
    simp only [printAll, SessionProgram.ask, Program.run_sequence, Program.run_request, prints,
      inductionHypothesis, List.append_assoc, List.singleton_append]

/-- A login that is given an authorization goes on to wait for the user. -/
theorem run_login_of_authorizes (authorizes : Authorizes service world authorization) :
    (login service).run Chronicle.handle (.start world) =
      (await service authorization).run Chronicle.handle
        ⟨service.devicePlan.later world, (service.devicePlan.exchange? world).toList⟩ := by
  rw [login, Program.run_sequence, Started.run (.start world) (started_ok_iff.mpr authorizes)]
  rfl

/-- A login that is given none ends with the error that says why. -/
theorem run_login_of_unauthorized {error : AuthError}
    (started : service.Started world (.error error)) :
    (login service).run Chronicle.handle (.start world) = (.error (.error error.toError),
      ⟨service.devicePlan.later world, (service.devicePlan.exchange? world).toList⟩) := by
  rw [login, Program.run_sequence, Started.run (.start world) started]
  rfl

/-- As many polls as there is fuel for take at least the time given. -/
theorem fuel_lasts (expiresIn : Nat) {interval : Nat} (positive : 0 < interval) :
    expiresIn ≤ (expiresIn / interval + 1) * interval := by
  have split := Nat.div_add_mod expiresIn interval
  have rest := Nat.mod_lt expiresIn positive
  rw [Nat.succ_mul, Nat.mul_comm]
  omega

/-- With an authorization in hand a login comes to a decision. -/
theorem await_decides {authorization : DeviceAuthorization}
    (fits : (service.devicePlan.later world).monotonic / 1000 + authorization.expiresIn ≤ clockLimit) :
    ∃ poll result last,
      (∀ earlier < poll, (pollingFor service world authorization).PendingInTime earlier) ∧
      (pollingFor service world authorization).Decides poll result last ∧
      (await service authorization).run Chronicle.handle
          ⟨service.devicePlan.later world, (service.devicePlan.exchange? world).toList⟩ =
        (result, ⟨last, exchangesOf service world authorization (poll + 1)⟩) := by
  have lasts := fuel_lasts authorization.expiresIn (Nat.le_max_right authorization.interval 1)
  obtain ⟨poll, within, pending, result, last, decides⟩ :=
    (pollingFor service world authorization).exists_decides rfl (Nat.succ_pos _) lasts
  have ran := Polling.run_pollUntil pending decides (service.devicePlan.exchange? world).toList
    (Nat.zero_le poll) (Nat.lt_of_lt_of_eq within (Nat.zero_add _).symm)
  refine ⟨poll, result, last, pending, decides, ?_⟩
  have noneYet : (pollingFor service world authorization).exchanges 0 = [] := rfl
  rw [noneYet, List.append_nil] at ran
  simp only [await, SessionProgram.ask, Program.run_sequence, run_printAll, Program.run_request,
    Polling.handle_monotonicClock, if_neg (Nat.not_lt.mpr fits)]
  exact ran

end DashboardTools.Command
