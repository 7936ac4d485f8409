import Mathlib.Algebra.Order.Floor.Div
import Mathlib.Data.List.Chain
import DashboardTools.Proofs.Command.Overflow

/-!
# How often a login polls

Sleeping takes the time it is asked for, and answers take any time. So each request of a login is
sent an interval after the answer to the one before, and a poll is sent only if the interval before
began within the time given. That alone bounds the number of polls, whatever the server answers: a
login that were allowed more of them would send no more.
-/

namespace DashboardTools.Command

open DashboardTools.Http
open DashboardTools.Service

/-- A request is sent at least some seconds after the answer to another. -/
def IsApart (seconds : Nat) (earlier later : Exchange) : Prop :=
  earlier.after.monotonic + 1000 * seconds ≤ later.before.monotonic

/-- One poll for each interval begun in the time given, and one in any case. -/
def mostPolls (authorization : DeviceAuthorization) : Nat :=
  max 1 (authorization.expiresIn ⌈/⌉ max authorization.interval 1)

/-- The polling of a login begins once the user is told what to do. -/
def pollingStart (service : Service) (world : World) (authorization : DeviceAuthorization) : Chronicle :=
  ⟨(pollingFor service world authorization).start, (service.devicePlan.exchange? world).toList⟩

/-- The requests of a login: one for the device code, and then polls. -/
structure KeepsPace (service : Service) (world : World) (authorization : DeviceAuthorization)
    (left : Chronicle) : Prop where
  requests : ∃ asked polls, left.exchanges = asked :: polls ∧
    service.devicePlan.build = .ok asked.request ∧
    (∀ poll ∈ polls,
      (service.pollPlan authorization.deviceCode).build = .ok poll.request) ∧
    polls.length ≤ mostPolls authorization
  apart : left.exchanges.IsChain (IsApart (max authorization.interval 1))

namespace Polling

variable {polling : Polling}

/-- Sending makes an exchange that begins in the world where it is sent and ends in the one that it
leaves. -/
theorem exchange?_monotonic {plan : Plan} {world : World} {exchange : Exchange}
    (made : plan.exchange? world = some exchange) :
    exchange.before.monotonic = world.monotonic ∧
      exchange.after.monotonic = (plan.later world).monotonic := by
  obtain ⟨_, before, after, _⟩ := Plan.exchange?_eq_some made
  rw [before, after]
  exact ⟨rfl, rfl⟩

/-- The exchanges of a polling follow each other, and the one that began it, at least an interval
apart. The last of them ends no later than the poll that it belongs to, which is what one more poll
is measured by. -/
theorem exchanges_apart (polling : Polling) {asked : Exchange}
    (began : asked.after.monotonic ≤ polling.start.monotonic) (polls : Nat) :
    (asked :: polling.exchanges polls).IsChain (IsApart polling.interval) ∧
      ∀ final ∈ (asked :: polling.exchanges polls).getLast?,
        final.after.monotonic ≤ (polling.after polls).monotonic := by
  induction polls with
  | zero =>
    refine ⟨.singleton asked, ?_⟩
    intro final isLast
    obtain rfl : asked = final := by simpa [exchanges] using isLast
    exact began
  | succ polls inductionHypothesis =>
    obtain ⟨chain, ends⟩ := inductionHypothesis
    have slept : (polling.asking polls).monotonic =
        (polling.after polls).monotonic + 1000 * polling.interval := rfl
    have answered := later_monotonic polling.plan (polling.asking polls)
    rw [exchanges_succ]
    cases made : polling.plan.exchange? (polling.asking polls) with
    | none =>
      -- A poll that is never sent leaves the last exchange as it was, further in the past.
      rw [Option.toList_none, List.append_nil]
      refine ⟨chain, ?_⟩
      intro final isLast
      have before := ends final isLast
      change _ ≤ (polling.plan.later (polling.asking polls)).monotonic
      omega
    | some exchange =>
      obtain ⟨sentAt, endedAt⟩ := exchange?_monotonic made
      rw [Option.toList_some, ← List.cons_append]
      constructor
      · refine chain.append (.singleton exchange) ?_
        intro final isLast next isNext
        obtain rfl : exchange = next := by simpa using isNext
        have before := ends final isLast
        unfold IsApart
        omega
      · intro final isLast
        rw [List.getLast?_concat] at isLast
        obtain rfl : exchange = final := Option.some.inj isLast
        exact Nat.le_of_eq endedAt

/-- A number of polls makes at most as many exchanges. It makes fewer where the request of a poll
cannot be built. -/
theorem exchanges_length (polling : Polling) (polls : Nat) : (polling.exchanges polls).length ≤ polls := by
  induction polls with
  | zero => exact Nat.le_refl 0
  | succ polls inductionHypothesis =>
    have one : (polling.plan.exchange? (polling.asking polls)).toList.length ≤ 1 := by
      cases polling.plan.exchange? (polling.asking polls) <;> simp
    rw [exchanges_succ, List.length_append]
    omega

/-- Every exchange of the polls carries the one request that the polling plan builds. -/
theorem built_of_mem_exchanges {polls : Nat} {exchange : Exchange}
    (member : exchange ∈ polling.exchanges polls) : polling.plan.build = .ok exchange.request := by
  obtain ⟨poll, _, made⟩ := List.mem_flatMap.mp member
  exact (Plan.exchange?_eq_some (Option.mem_toList.mp made)).1

end Polling

variable {service : Service} {world : World} {authorization : DeviceAuthorization}

/-- A poll that is sent comes among the most polls that there can be. -/
theorem poll_lt_mostPolls {poll : Nat}
    (pending : ∀ earlier < poll, (pollingFor service world authorization).PendingInTime earlier) :
    poll < mostPolls authorization := by
  unfold mostPolls
  cases poll with
  | zero => exact Nat.lt_of_lt_of_le Nat.one_pos (Nat.le_max_left _ _)
  | succ poll =>
    have early : (poll + 1) * max authorization.interval 1 < authorization.expiresIn :=
      (pending poll (Nat.lt_succ_self poll)).early rfl
    apply Nat.lt_of_lt_of_le _ (Nat.le_max_right _ _)
    apply Nat.lt_of_not_le
    intro few
    have covered := (ceilDiv_le_iff_le_mul (Nat.lt_of_lt_of_le Nat.one_pos
      (Nat.le_max_right authorization.interval 1))).mp few
    rw [Nat.mul_comm] at covered
    exact absurd covered (Nat.not_le_of_lt early)

/-- A login that is given an authorization asks for it before it polls. -/
theorem exists_asked (authorizes : Authorizes service world authorization) :
    ∃ asked, service.devicePlan.exchange? world = some asked := by
  obtain ⟨reply, answer, _⟩ := authorizes
  unfold Plan.answer at answer
  unfold Plan.exchange?
  cases built : service.devicePlan.build with
  | error cause =>
    rw [built] at answer
    cases answer
  | ok request => exact ⟨_, rfl⟩

/-- Every login keeps its pace and comes to an end, for every authorization that it is given,
whatever becomes of its polls and however long the answers take, as long as the monotonic clock can
count the time given. Any larger number of polls that it were allowed would end in the same way. -/
theorem logins_keep_their_pace (service : Service) (world : World) (authorization : DeviceAuthorization)
    (authorizes : Authorizes service world authorization)
    (fits : (service.devicePlan.later world).monotonic / 1000 + authorization.expiresIn ≤ clockLimit)
    (result : Except LoginFailure TokenGrant) (left : Chronicle)
    (ran : (login service).run Chronicle.handle (.start world) = (result, left)) :
    (login service).run World.handle world = (result, left.world) ∧
      KeepsPace service world authorization left ∧
      ∀ allowed, mostPolls authorization ≤ allowed →
        (pollUntil service authorization.deviceCode (max authorization.interval 1)
            ((service.devicePlan.later world).monotonic + 1000 * authorization.expiresIn) allowed).run
          Chronicle.handle (pollingStart service world authorization) = (result, left) := by
  have plain := Chronicle.run_world (login service) (.start world)
  rw [ran] at plain
  refine ⟨plain, ?_⟩
  rw [run_login_of_authorizes authorizes] at ran
  obtain ⟨poll, decision, last, pending, decides, awaited⟩ := await_decides fits
  rw [awaited] at ran
  obtain ⟨rfl, rfl⟩ := Prod.mk.inj ran
  have within := poll_lt_mostPolls pending
  obtain ⟨asked, made⟩ := exists_asked authorizes
  have sent : exchangesOf service world authorization (poll + 1) =
      asked :: (pollingFor service world authorization).exchanges (poll + 1) := by
    rw [exchangesOf, made]
    rfl
  refine ⟨⟨⟨asked, _, sent, (Plan.exchange?_eq_some made).1, ?_, ?_⟩, ?_⟩, ?_⟩
  · intro exchange member
    have built := Polling.built_of_mem_exchanges member
    exact built
  · exact Nat.le_trans (Polling.exchanges_length _ _) within
  · rw [sent]
    have began := Nat.le_of_eq (Polling.exchange?_monotonic made).2
    have apart := (pollingFor service world authorization).exchanges_apart began (poll + 1)
    exact apart.1
  · intro allowed enough
    -- The run ends at the poll that decides, and more fuel than that is not looked at.
    have ran := Polling.run_pollUntil pending decides (service.devicePlan.exchange? world).toList
      (Nat.zero_le poll) (by omega : poll < 0 + allowed)
    have noneYet : (pollingFor service world authorization).exchanges 0 = [] := rfl
    rw [noneYet, List.append_nil] at ran
    exact ran

/-- The authorization of a server that wants a poll every two seconds for seven seconds. -/
def hastyAuthorization : DeviceAuthorization := ⟨"d", "u", "v", "", 7, 2⟩

/-- The server that gives it leaves all polls pending and answers each after half a second. -/
def pendingWorld : World :=
  { sampleWorld with
    outcomes
      | 0 => .replied 500 (authorizingReply hastyAuthorization)
      | _ => .replied 500 ⟨400, some (objectBytes "\"error\":\"authorization_pending\"")⟩ }

/-- A login that is only ever told to wait ends by itself. Four polls fit before its deadline, and
their exchanges stand apart by the pace. -/
theorem pending_login_ends : Authorizes sampleService pendingWorld hastyAuthorization ∧
    (sampleService.devicePlan.later pendingWorld).monotonic / 1000 + hastyAuthorization.expiresIn ≤
      clockLimit ∧
    mostPolls hastyAuthorization = 4 ∧
    ∃ left, (login sampleService).run World.handle pendingWorld = (.error expiredFailure, left.world) ∧
      left.exchanges.length = 4 ∧ KeepsPace sampleService pendingWorld hastyAuthorization left := by
  have answer : sampleService.devicePlan.answer pendingWorld =
      .ok (authorizingReply hastyAuthorization) := by decide +kernel
  have authorizes : Authorizes sampleService pendingWorld hastyAuthorization :=
    ⟨_, answer, rfl, authorizationOf?_authorizingReply ⟨by decide, by decide⟩⟩
  have fits : (sampleService.devicePlan.later pendingWorld).monotonic / 1000 +
      hastyAuthorization.expiresIn ≤ clockLimit := by decide +kernel
  have most : mostPolls hastyAuthorization = 4 := by decide +kernel
  obtain ⟨plain, pace, _⟩ := logins_keep_their_pace sampleService pendingWorld hastyAuthorization
    authorizes fits _ _ (Prod.eta _).symm
  have expires : ((login sampleService).run Chronicle.handle (.start pendingWorld)).1 =
      .error expiredFailure := by
    decide +kernel
  rw [expires] at plain
  exact ⟨authorizes, fits, most, _, plain, by decide +kernel, pace⟩

end DashboardTools.Command
