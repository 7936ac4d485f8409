import DashboardTools.Proofs.Session.Custody

/-!
# What asking for authorization comes to

A request for a device code is one exchange, and so is a poll. Each comes to one of a few endings,
which the answer decides; a poll that is granted a token has saved its record by the time it ends.
-/

namespace DashboardTools.Service

open DashboardTools.Credential
open DashboardTools.Disk
open DashboardTools.Http
open DashboardTools.Text

/-- The authorization that the body of a reply states, if it has arrived and is a text that states
one. -/
def authorizationOf? (reply : Reply) : Option DeviceAuthorization :=
  (reply.body?.bind Utf8.decode?).bind DeviceAuthorization.parse?

/-- Everything that a request for a device code can come to in a world. -/
inductive Started (service : Service) (world : World) : Except AuthError DeviceAuthorization → Prop where
  | unanswered (cause : NetworkError) (answer : service.devicePlan.answer world = .error cause) :
    Started service world (.error (.network cause))
  | refused (reply : Reply) (answer : service.devicePlan.answer world = .ok reply)
    (failure : reply.isSuccess = false) :
    Started service world (.error (.server ("Failed to request device code: " ++ reply.bodyText)))
  | unreadable (reply : Reply) (answer : service.devicePlan.answer world = .ok reply)
    (success : reply.isSuccess = true) (nothing : authorizationOf? reply = none) :
    Started service world (.error (.network .unreadable))
  | authorized (reply : Reply) (authorization : DeviceAuthorization)
    (answer : service.devicePlan.answer world = .ok reply) (success : reply.isSuccess = true)
    (states : authorizationOf? reply = some authorization) :
    Started service world (.ok authorization)

/-- Everything that a poll can come to in a world. -/
inductive Polled (service : Service) (deviceCode : String) (world : World) :
    Except AuthError PollOutcome → World → Prop where
  | unanswered (cause : NetworkError)
    (answer : (service.pollPlan deviceCode).answer world = .error cause) :
    Polled service deviceCode world (.error (.network cause))
      ((service.pollPlan deviceCode).later world)
  | refused (reply : Reply) (answer : (service.pollPlan deviceCode).answer world = .ok reply)
    (bad : reply.status = 400) :
    Polled service deviceCode world (refusal reply.bodyText)
      ((service.pollPlan deviceCode).later world)
  | failed (reply : Reply) (answer : (service.pollPlan deviceCode).answer world = .ok reply)
    (notBad : reply.status ≠ 400) (failure : reply.isSuccess = false) :
    Polled service deviceCode world
      (.error (.server ("Failed to get token: " ++ reply.bodyText)))
      ((service.pollPlan deviceCode).later world)
  | unreadable (reply : Reply) (answer : (service.pollPlan deviceCode).answer world = .ok reply)
    (success : reply.isSuccess = true) (nothing : grantOfBody? reply.body? = none) :
    Polled service deviceCode world (.error (.network .unreadable))
      ((service.pollPlan deviceCode).later world)
  | unsaved (reply : Reply) (grant : TokenGrant) (credential : Credential) (problem : Problem)
    (answer : (service.pollPlan deviceCode).answer world = .ok reply)
    (success : reply.isSuccess = true) (states : grantOfBody? reply.body? = some grant)
    (amounts : credential = ofGrant grant ((service.pollPlan deviceCode).later world).now)
    (failed : (service.saving credential ((service.pollPlan deviceCode).later world)).1 =
      .error problem) :
    Polled service deviceCode world (.error (.io problem.message))
      (service.savedWorld credential ((service.pollPlan deviceCode).later world))
  | granted (reply : Reply) (grant : TokenGrant) (credential : Credential)
    (answer : (service.pollPlan deviceCode).answer world = .ok reply)
    (success : reply.isSuccess = true) (states : grantOfBody? reply.body? = some grant)
    (amounts : credential = ofGrant grant ((service.pollPlan deviceCode).later world).now)
    (saved : (service.saving credential ((service.pollPlan deviceCode).later world)).1 = .ok ()) :
    Polled service deviceCode world (.ok (.granted grant))
      (service.savedWorld credential ((service.pollPlan deviceCode).later world))

variable {service : Service} {deviceCode : String} {world last : World}

/-- A request for a device code comes to an ending. -/
theorem exists_started (service : Service) (world : World) :
    ∃ result, service.Started world result := by
  cases answer : service.devicePlan.answer world with
  | error cause => exact ⟨_, .unanswered cause answer⟩
  | ok reply =>
    cases success : reply.isSuccess with
    | false => exact ⟨_, .refused reply answer success⟩
    | true =>
      cases states : authorizationOf? reply with
      | none => exact ⟨_, .unreadable reply answer success states⟩
      | some authorization => exact ⟨_, .authorized reply authorization answer success states⟩

/-- A request for a device code runs to the ending that it comes to. -/
theorem Started.run (chronicle : Chronicle) {result : Except AuthError DeviceAuthorization}
    (started : service.Started chronicle.world result) :
    service.startDevice.run Chronicle.handle chronicle =
      (result, ⟨service.devicePlan.later chronicle.world,
        chronicle.exchanges ++ (service.devicePlan.exchange? chronicle.world).toList⟩) := by
  have sent := service.devicePlan.run_send chronicle
  unfold startDevice
  change Program.run _ (service.devicePlan.send >>= _) _ = _
  simp only [Program.run_sequence, sent]
  cases started with
  | unanswered cause answer => simp [answer]
  | refused reply answer failure => simp [answer, failure]
  | unreadable reply answer success nothing =>
    rw [authorizationOf?] at nothing
    simp [answer, success, nothing]
  | authorized reply authorization answer success states =>
    rw [authorizationOf?] at states
    simp [answer, success, states]

/-- Starting a login in a world has one outcome, since the world settles what becomes of its
request. -/
theorem Started.unique {one other : Except AuthError DeviceAuthorization}
    (first : service.Started world one) (second : service.Started world other) : one = other := by
  have same := (Started.run (.start world) first).symm.trans
    (Started.run (.start world) second)
  exact (Prod.mk.inj same).1

/-- A poll comes to an ending, whatever the server answers and whether or not it answers at all. -/
theorem exists_polled (service : Service) (deviceCode : String) (world : World) :
    ∃ result last, service.Polled deviceCode world result last := by
  cases answer : (service.pollPlan deviceCode).answer world with
  | error cause => exact ⟨_, _, .unanswered cause answer⟩
  | ok reply =>
    by_cases bad : reply.status = 400
    · exact ⟨_, _, .refused reply answer bad⟩
    · cases success : reply.isSuccess with
      | false => exact ⟨_, _, .failed reply answer bad success⟩
      | true =>
        cases states : grantOfBody? reply.body? with
        | none => exact ⟨_, _, .unreadable reply answer success states⟩
        | some grant =>
          cases result : (service.saving (ofGrant grant ((service.pollPlan deviceCode).later world).now)
              ((service.pollPlan deviceCode).later world)).1 with
          | ok done => exact ⟨_, _, .granted reply grant _ answer success states rfl result⟩
          | error problem => exact ⟨_, _, .unsaved reply grant _ problem answer success states rfl result⟩

/-- A success is no refusal with status 400, so a grant is never looked for in a refusal. -/
theorem ne_of_isSuccess {reply : Reply} (success : reply.isSuccess = true) : reply.status ≠ 400 := by
  intro bad
  simp [Reply.isSuccess, bad] at success

/-- A poll runs to the ending that it comes to. -/
theorem Polled.run (chronicle : Chronicle) {result : Except AuthError PollOutcome}
    (polled : service.Polled deviceCode chronicle.world result last) :
    (service.poll deviceCode).run Chronicle.handle chronicle =
      (result, ⟨last, chronicle.exchanges ++
        ((service.pollPlan deviceCode).exchange? chronicle.world).toList⟩) := by
  have sent := (service.pollPlan deviceCode).run_send chronicle
  rw [poll, ← pollPlan]
  simp only [Program.run_sequence, sent]
  cases polled with
  | unanswered cause answer => simp [answer]
  | refused reply answer bad => simp [answer, receivePoll, bad]
  | failed reply answer notBad failure => simp [answer, receivePoll, notBad, failure]
  | unreadable reply answer success nothing =>
    simp [answer, receivePoll, ne_of_isSuccess success, success, nothing]
  | unsaved reply grant credential problem answer success states amounts failed =>
    simp only [answer, receivePoll, if_neg (ne_of_isSuccess success), success, Bool.not_true,
      Bool.false_eq_true, if_false, states, Program.run_sequence, run_keepGrant, ← amounts, failed,
      Except.map, Program.run_pure]
  | granted reply grant credential answer success states amounts saved =>
    simp only [answer, receivePoll, if_neg (ne_of_isSuccess success), success, Bool.not_true,
      Bool.false_eq_true, if_false, states, Program.run_sequence, run_keepGrant, ← amounts, saved,
      Except.map, Program.run_pure]

/-- A poll in a world has one outcome and leaves one world. -/
theorem Polled.unique {one other : Except AuthError PollOutcome} {lastOther : World}
    (first : service.Polled deviceCode world one last)
    (second : service.Polled deviceCode world other lastOther) : one = other ∧ last = lastOther := by
  have same := (Polled.run (.start world) first).symm.trans
    (Polled.run (.start world) second)
  obtain ⟨result, left⟩ := Prod.mk.inj same
  exact ⟨result, (Chronicle.mk.inj left).1⟩

/-- A refusal is never read as a grant, whatever its text says. -/
theorem refusal_ne_granted (text : String) (grant : TokenGrant) :
    refusal text ≠ .ok (.granted grant) := by
  unfold refusal
  split <;> simp

/-- A poll is granted a token only by a success that states the grant, and once its record is
saved. -/
theorem Polled.exists_grant {grant : TokenGrant}
    (polled : service.Polled deviceCode world (.ok (.granted grant)) last) :
    ∃ reply, (service.pollPlan deviceCode).answer world = .ok reply ∧ reply.isSuccess = true ∧
      grantOfBody? reply.body? = some grant ∧
      (service.saving (ofGrant grant ((service.pollPlan deviceCode).later world).now)
        ((service.pollPlan deviceCode).later world)).1 = .ok () := by
  generalize ends : Except.ok (PollOutcome.granted grant) = ending at polled
  cases polled with
  | granted reply _ credential answer success states amounts saved =>
    obtain rfl : grant = _ := PollOutcome.granted.inj (Except.ok.inj ends)
    subst amounts
    exact ⟨reply, answer, success, states, saved⟩
  | refused reply => exact absurd ends.symm (refusal_ne_granted _ _)
  | unanswered | failed | unreadable | unsaved => cases ends

/-- A poll finds out anything else only by a refusal with status 400 that says so, and is over
then. -/
theorem Polled.exists_refusal {outcome : PollOutcome}
    (ungranted : ∀ grant, outcome ≠ .granted grant)
    (polled : service.Polled deviceCode world (.ok outcome) last) :
    ∃ reply, (service.pollPlan deviceCode).answer world = .ok reply ∧ reply.status = 400 ∧
      refusal reply.bodyText = .ok outcome ∧ last = (service.pollPlan deviceCode).later world := by
  generalize ends : Except.ok outcome = ending at polled
  cases polled with
  | refused reply answer bad => exact ⟨reply, answer, bad, rfl, rfl⟩
  | granted reply grant => exact absurd (Except.ok.inj ends) (ungranted grant)
  | unanswered | failed | unreadable | unsaved => cases ends

/-- A poll that is not granted a token leaves in the credential file what was read there. -/
theorem Polled.stored {result : Except AuthError PollOutcome}
    (polled : service.Polled deviceCode world result last) (wellFormed : world.disk.WellFormed)
    (ungranted : ∀ grant, result ≠ .ok (.granted grant)) {held : List UInt8}
    (readable : service.stored world = .ok held) : service.stored last = .ok held := by
  have later : service.stored ((service.pollPlan deviceCode).later world) = .ok held := by
    rwa [Service.stored, Plan.later_disk]
  have laterWellFormed : ((service.pollPlan deviceCode).later world).disk.WellFormed := by
    rwa [Plan.later_disk]
  cases polled with
  | unanswered | refused | failed | unreadable => exact later
  | unsaved reply grant credential problem answer success states amounts failed =>
    exact read_saveOn_failed laterWellFormed failed later
  | granted reply grant => exact absurd rfl (ungranted grant)

end DashboardTools.Service
