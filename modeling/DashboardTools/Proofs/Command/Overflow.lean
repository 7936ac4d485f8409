import Mathlib.Control.Monad.Basic
import DashboardTools.Proofs.Command.Login
import DashboardTools.Proofs.Json.RoundTrip
import DashboardTools.Proofs.Service.Replies

/-!
# When the time given for a login cannot be counted

A server states the time given for a login and the interval of its polls as numbers of 64 bits, and
every pair of them can come. The monotonic clock counts up to `clockLimit`, which is less. Nothing
looks at the size of the time given between reading it and adding it to the clock, so a login
overflows on exactly those authorizations that reach beyond the clock. On all others it polls until
a poll decides.
-/

namespace DashboardTools

open DashboardTools.Http
open DashboardTools.Json
open DashboardTools.Text

namespace DeviceAuthorization

/-- The numbers of an authorization have 64 bits, which is all that a reader of the answer makes
room for. -/
structure IsInWords (authorization : DeviceAuthorization) : Prop where
  expiresIn : authorization.expiresIn < Nat.pow 2 64
  interval : authorization.interval < Nat.pow 2 64

variable {authorization : DeviceAuthorization}

/-- The text of an authorization is read as that authorization. -/
theorem parse?_toValue (inWords : authorization.IsInWords) :
    parse? authorization.toValue.compact.toList = some authorization := by
  have record := Record.parse?_write fieldNames .compact [
    ("device_code", .string authorization.deviceCode),
    ("user_code", .string authorization.userCode),
    ("verification_uri", .string authorization.verificationAddress),
    ("verification_uri_complete", .string authorization.completeAddress),
    ("expires_in", .int authorization.expiresIn), ("interval", .int authorization.interval)]
    (by simp [fieldNames]) (by simp)
  have lifetime := natural?_raw inWords.expiresIn
  have interval := natural?_raw inWords.interval
  rw [parse?, toValue, Value.compact, String.toList_ofList, record]
  simp [Record.text?, Record.natural?, Record.field?, text?_raw, lifetime, interval]

/-- An authorization read from a reply has numbers that a 64-bit word can hold, since the reader
refuses any other. -/
theorem IsIn.inWords {raw : Raw} (isIn : authorization.IsIn raw) : authorization.IsInWords where
  expiresIn := isIn.expiresIn.lt
  interval := isIn.interval.lt

end DeviceAuthorization

namespace Service

/-- An authorization is found in a reply exactly when the reply states it. -/
theorem authorizationOf?_eq_some_iff {reply : Reply} {authorization : DeviceAuthorization} :
    authorizationOf? reply = some authorization ↔ StatesAuthorization reply authorization := by
  simp only [authorizationOf?, Option.bind_eq_some_iff, DeviceAuthorization.parse?_eq_some_iff]
  constructor
  · rintro ⟨text, ⟨bytes, came, decoded⟩, raw, states, isIn⟩
    exact ⟨raw, ⟨bytes, text, came, decoded, states⟩, isIn⟩
  · rintro ⟨raw, ⟨bytes, text, came, decoded, states⟩, isIn⟩
    exact ⟨text, ⟨bytes, came, decoded⟩, raw, states, isIn⟩

/-- The reply whose body is the text of an authorization. -/
def authorizingReply (authorization : DeviceAuthorization) : Reply :=
  ⟨200, some (Utf8.encode authorization.toValue.compact.toList)⟩

/-- Writing an authorization as a reply and reading that reply gives it back, as long as its numbers
fit in a word. -/
theorem authorizationOf?_authorizingReply {authorization : DeviceAuthorization}
    (inWords : authorization.IsInWords) :
    authorizationOf? (authorizingReply authorization) = some authorization := by
  rw [authorizationOf?, authorizingReply, Option.bind_some, Utf8.decode?_encode, Option.bind_some]
  exact DeviceAuthorization.parse?_toValue inWords

/-- Some reply gives an authorization exactly when its numbers have 64 bits. -/
theorem exists_reply_iff {authorization : DeviceAuthorization} :
    (∃ reply : Reply, reply.isSuccess = true ∧ authorizationOf? reply = some authorization) ↔
      authorization.IsInWords := by
  constructor
  · rintro ⟨reply, _, found⟩
    obtain ⟨raw, _, isIn⟩ := authorizationOf?_eq_some_iff.mp found
    exact isIn.inWords
  · intro inWords
    exact ⟨authorizingReply authorization, rfl, authorizationOf?_authorizingReply inWords⟩

end Service

namespace Command

open DashboardTools.Service

/-- The time given for a login lies beyond what the monotonic clock can count. -/
def Overflows (service : Service) (world : World) (authorization : DeviceAuthorization) : Prop :=
  clockLimit < (service.devicePlan.later world).monotonic / 1000 + authorization.expiresIn

/-- How a login fares with the clock: whether it overflows, what it has done when it does, and how
it goes on when it does not. -/
structure ClockCourse (service : Service) (world : World) (result : Except LoginFailure TokenGrant)
    (left : Chronicle) : Prop where
  overflows_iff : result = .error .clockOverflow ↔
    ∃ authorization, Authorizes service world authorization ∧ Overflows service world authorization
  /-- A login that overflows has sent one request, and leaves all files as they were. -/
  overflowed : result = .error .clockOverflow →
    left.exchanges = (service.devicePlan.exchange? world).toList ∧ left.world.disk = world.disk
  /-- A login that does not overflow polls until a poll decides. -/
  decided : ∀ authorization, Authorizes service world authorization →
    ¬ Overflows service world authorization → ∃ poll,
    (∀ earlier < poll, (pollingFor service world authorization).PendingInTime earlier) ∧
    (pollingFor service world authorization).Decides poll result left.world ∧
    left.exchanges = exchangesOf service world authorization (poll + 1)
  /-- A login that is given no authorization says why. -/
  unauthorized : (∀ authorization, ¬ Authorizes service world authorization) →
    ∃ error : AuthError, service.Started world (.error error) ∧
      result = .error (.error error.toError)

variable {service : Service} {world : World} {authorization : DeviceAuthorization}

/-- The larger half of the numbers that can come lies beyond the clock, whatever it reads. -/
theorem overflows_of_le (large : Nat.pow 2 63 ≤ authorization.expiresIn) :
    Overflows service world authorization := by
  have limit : clockLimit < Nat.pow 2 63 := by decide
  exact Nat.lt_of_lt_of_le limit (Nat.le_trans large (Nat.le_add_left _ _))

/-- Waiting for the user ends before the first poll if the time given lies beyond the clock. -/
theorem await_overflows (overflows : Overflows service world authorization)
    (exchanges : List Exchange) :
    (await service authorization).run Chronicle.handle
        ⟨service.devicePlan.later world, exchanges⟩ =
      (.error .clockOverflow, ⟨(pollingFor service world authorization).start, exchanges⟩) := by
  unfold Overflows at overflows
  simp only [await, SessionProgram.ask, Program.run_sequence, run_printAll, Program.run_request,
    Polling.handle_monotonicClock, if_pos overflows]
  rfl

/-- A poll never decides that the clock overflows. The deadline is computed once, before the first
poll. -/
theorem Polling.Decides.not_clockOverflow {polling : Polling} {poll : Nat}
    {result : Except LoginFailure TokenGrant} {last : World}
    (decides : polling.Decides poll result last) : result ≠ .error .clockOverflow := by
  cases decides with
  | granted | failed | expired | denied | late => exact nofun

/-- Where the deadline lies beyond the clock, the login ends on the overflow after the single
exchange of its start. No poll is made. -/
theorem overflowed_course (authorizes : Authorizes service world authorization)
    (overflows : Overflows service world authorization) :
    ClockCourse service world (.error .clockOverflow)
      ⟨(pollingFor service world authorization).start,
        (service.devicePlan.exchange? world).toList⟩ := by
  refine ⟨iff_of_true rfl ⟨authorization, authorizes, overflows⟩, ?_, ?_, ?_⟩
  · intro _
    exact ⟨rfl, Plan.later_disk _ world⟩
  · intro other authorizesToo within
    obtain rfl := authorizes.unique authorizesToo
    exact absurd overflows within
  · intro never
    exact absurd authorizes (never authorization)

/-- Within the clock, a login that decides at some poll ends there, and its exchanges are those of
the start and of the polls up to that one. -/
theorem decided_clockCourse {poll : Nat} {result : Except LoginFailure TokenGrant} {last : World}
    (authorizes : Authorizes service world authorization)
    (within : ¬ Overflows service world authorization)
    (pending : ∀ earlier < poll, (pollingFor service world authorization).PendingInTime earlier)
    (decides : (pollingFor service world authorization).Decides poll result last) :
    ClockCourse service world result
      ⟨last, exchangesOf service world authorization (poll + 1)⟩ := by
  refine ⟨iff_of_false decides.not_clockOverflow ?_, ?_, ?_, ?_⟩
  · rintro ⟨other, authorizesToo, overflows⟩
    obtain rfl := authorizes.unique authorizesToo
    exact within overflows
  · intro overflowed
    exact absurd overflowed decides.not_clockOverflow
  · intro other authorizesToo _
    obtain rfl := authorizes.unique authorizesToo
    exact ⟨poll, pending, decides, rfl⟩
  · intro never
    exact absurd authorizes (never authorization)

/-- A login that is not authorized ends with the start's own error, and the start is then its only
exchange. -/
theorem unauthorized_clockCourse {error : AuthError} (started : service.Started world (.error error)) :
    ClockCourse service world (.error (.error error.toError))
      ⟨service.devicePlan.later world, (service.devicePlan.exchange? world).toList⟩ := by
  have never := not_authorizes_of_started started
  refine ⟨iff_of_false nofun ?_, nofun, ?_, ?_⟩
  · rintro ⟨authorization, authorizes, _⟩
    exact never authorization authorizes
  · intro authorization authorizes
    exact absurd authorizes (never authorization)
  · intro _
    exact ⟨error, started, rfl⟩

/-- A login overflows exactly on the authorizations that reach beyond the clock, and no size of the
numbers of 64 bits that a server can state keeps it from that: the larger half of them does so at
every reading of the clock. The interval of the polls alone stays in range. -/
theorem logins_overflow_beyond_clock (service : Service) (world : World) :
    (∀ authorization : DeviceAuthorization,
      (∃ reply : Reply, reply.isSuccess = true ∧ authorizationOf? reply = some authorization) ↔
        authorization.IsInWords) ∧
    (∀ authorization : DeviceAuthorization, authorization.IsInWords →
      pollInterval authorization.interval < Nat.pow 2 64 ∧
      (Nat.pow 2 63 ≤ authorization.expiresIn → Overflows service world authorization)) ∧
    ∃ result left, (login service).run Chronicle.handle (.start world) = (result, left) ∧
      (login service).run World.handle world = (result, left.world) ∧
      ClockCourse service world result left := by
  refine ⟨fun authorization => exists_reply_iff, ?_, ?_⟩
  · intro authorization inWords
    have second : 1 < Nat.pow 2 64 := by decide
    exact ⟨Nat.max_lt.mpr ⟨inWords.interval, second⟩, overflows_of_le⟩
  · have plain := Chronicle.run_world (login service) (.start world)
    obtain ⟨start, started⟩ := exists_started service world
    cases start with
    | error error =>
      have ran := run_login_of_unauthorized started
      rw [ran] at plain
      exact ⟨_, _, ran, plain, unauthorized_clockCourse started⟩
    | ok authorization =>
      have authorizes := started_ok_iff.mp started
      by_cases overflows : Overflows service world authorization
      · have ran := run_login_of_authorizes authorizes
        rw [await_overflows overflows] at ran
        rw [ran] at plain
        exact ⟨_, _, ran, plain, overflowed_course authorizes overflows⟩
      · obtain ⟨poll, result, last, pending, decides, awaited⟩ :=
          await_decides (Nat.le_of_not_lt overflows)
        have ran := run_login_of_authorizes authorizes
        rw [awaited] at ran
        rw [ran] at plain
        exact ⟨_, _, ran, plain, decided_clockCourse authorizes overflows pending decides⟩

/-- The authorization of a server that gives as much time as a number can say. -/
def endlessAuthorization : DeviceAuthorization := ⟨"d", "u", "v", "", 18446744073709551615, 5⟩

/-- The server that gives it, in the sample's world. Every request is answered with that
authorization. -/
def endlessWorld : World :=
  { sampleWorld with outcomes := fun _ => .replied 5 (authorizingReply endlessAuthorization) }

/-- An authorization that lasts as long as a word can say is readable and overflows the clock: the
login ends on the overflow after one exchange. -/
theorem endless_login_overflows : endlessAuthorization.IsInWords ∧
    Authorizes sampleService endlessWorld endlessAuthorization ∧
    ∃ left, (login sampleService).run World.handle endlessWorld = (.error .clockOverflow, left) ∧
      left.seen.length = 1 := by
  have inWords : endlessAuthorization.IsInWords := ⟨by decide, by decide⟩
  have answer : sampleService.devicePlan.answer endlessWorld =
      .ok (authorizingReply endlessAuthorization) := by decide +kernel
  have authorizes : Authorizes sampleService endlessWorld endlessAuthorization :=
    ⟨_, answer, rfl, authorizationOf?_authorizingReply inWords⟩
  have overflows : Overflows sampleService endlessWorld endlessAuthorization :=
    overflows_of_le (by decide)
  have ran := Chronicle.run_world (login sampleService) (.start endlessWorld)
  rw [run_login_of_authorizes authorizes, await_overflows overflows] at ran
  exact ⟨inWords, authorizes, _, ran, by decide +kernel⟩

end Command

end DashboardTools
