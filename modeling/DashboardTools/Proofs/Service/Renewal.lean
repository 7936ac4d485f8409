import DashboardTools.Proofs.Credential.Text
import DashboardTools.Proofs.Service.Replies
import DashboardTools.Proofs.Service.Requests
import DashboardTools.Proofs.Session.Chronicle

/-!
# What a renewal comes to

A renewal sends the refresh token once. It ends in a new credential only if the answer reports
success, states a grant, and the credential made of it is saved. When the server turns it down the
credential file is cleared; in all other cases the renewal leaves in the file what was read before.
A renewal that cannot be sent, because its address leads nowhere, is one of those cases.
-/

namespace DashboardTools.Service

open DashboardTools.Credential
open DashboardTools.Disk
open DashboardTools.Http
open DashboardTools.Text

/-- What a save to the credential file answers and the disk that it leaves. -/
def saving (service : Service) (credential : Credential) (world : World) :
    Except Problem Unit × Disk :=
  saveOn world.process service.credentialFile credential world.disk

/-- The world after a save to the credential file, whether or not it succeeded. Only the disk may
have changed. -/
def savedWorld (service : Service) (credential : Credential) (world : World) : World :=
  { world with disk := (service.saving credential world).2 }

/-- The world after the credential file is cleared. Only the disk may have changed. -/
def clearedWorld (service : Service) (world : World) : World :=
  { world with disk := clear world.disk service.credentialFile }

/-- What is read from the credential file, or why it cannot be read. -/
def stored (service : Service) (world : World) : Except Problem (List UInt8) :=
  world.disk.read service.credentialFile

/-- The plan of a renewal, which posts the refresh token to the service. -/
def refreshPlan (service : Service) (token : String) : Plan :=
  service.authPlan "/v1/auth/refresh" (refreshBody token)

/-- A request asks for a renewal with a token exactly when it is what the plan of that renewal comes
to. -/
theorem isRenewalRequest_iff_build {service : Service} {token : String} {request : Request} :
    service.IsRenewalRequest token request ↔ (service.refreshPlan token).build = .ok request :=
  posts_iff_build

/-- A save to the credential file answers and leaves what a save on the disk of the world does, and
is no exchange. -/
theorem handle_save (service : Service) (credential : Credential) (chronicle : Chronicle) :
    Chronicle.handle _ (.save service.credentialFile credential) chronicle =
      ((service.saving credential chronicle.world).1,
        ⟨service.savedWorld credential chronicle.world, chronicle.exchanges⟩) := rfl

/-- A grant is kept as the credential that it amounts to at the time of the world. -/
theorem run_keepGrant (service : Service) (grant : TokenGrant) (chronicle : Chronicle) :
    (service.keepGrant grant).run Chronicle.handle chronicle =
      ((service.saving (ofGrant grant chronicle.world.now) chronicle.world).1.map
          fun _ => ofGrant grant chronicle.world.now,
        ⟨service.savedWorld (ofGrant grant chronicle.world.now) chronicle.world,
          chronicle.exchanges⟩) := by
  unfold keepGrant
  have look : Chronicle.handle _ .wallClock chronicle = (chronicle.world.now, chronicle) := rfl
  simp only [Program.run_sequence, SessionProgram.ask, Program.run_request, look, handle_save]
  cases (service.saving (ofGrant grant chronicle.world.now) chronicle.world).1 <;> rfl

/-- Everything that a renewal with a refresh token can come to in a world. -/
inductive Renewal (service : Service) (token : String) (world : World) :
    Option Credential → World → Prop where
  | unanswered (cause : NetworkError)
    (answer : (service.refreshPlan token).answer world = .error cause) :
    Renewal service token world none ((service.refreshPlan token).later world)
  | refused (reply : Reply) (answer : (service.refreshPlan token).answer world = .ok reply)
    (failure : reply.isSuccess = false) :
    Renewal service token world none
      (service.clearedWorld ((service.refreshPlan token).later world))
  | unreadable (reply : Reply) (answer : (service.refreshPlan token).answer world = .ok reply)
    (success : reply.isSuccess = true) (nothing : grantOfBody? reply.body? = none) :
    Renewal service token world none ((service.refreshPlan token).later world)
  | unsaved (reply : Reply) (grant : TokenGrant) (credential : Credential) (problem : Problem)
    (answer : (service.refreshPlan token).answer world = .ok reply)
    (success : reply.isSuccess = true) (states : grantOfBody? reply.body? = some grant)
    (amounts : credential = ofGrant grant ((service.refreshPlan token).later world).now)
    (failed : (service.saving credential ((service.refreshPlan token).later world)).1 =
      .error problem) :
    Renewal service token world none
      (service.savedWorld credential ((service.refreshPlan token).later world))
  | renewed (reply : Reply) (grant : TokenGrant) (credential : Credential)
    (answer : (service.refreshPlan token).answer world = .ok reply)
    (success : reply.isSuccess = true) (states : grantOfBody? reply.body? = some grant)
    (amounts : credential = ofGrant grant ((service.refreshPlan token).later world).now)
    (saved : (service.saving credential ((service.refreshPlan token).later world)).1 = .ok ()) :
    Renewal service token world (some credential)
      (service.savedWorld credential ((service.refreshPlan token).later world))

/-- A renewal makes the exchange of its plan and no other. -/
theorem run_refresh (service : Service) (token : String) (chronicle : Chronicle) :
    service.Renewal token chronicle.world
        ((service.refresh? token).run Chronicle.handle chronicle).1
        ((service.refresh? token).run Chronicle.handle chronicle).2.world ∧
      ((service.refresh? token).run Chronicle.handle chronicle).2.exchanges =
        chronicle.exchanges ++ ((service.refreshPlan token).exchange? chronicle.world).toList := by
  have sent := (service.refreshPlan token).run_send chronicle
  rw [refresh?, ← refreshPlan]
  simp only [Program.run_sequence, sent]
  cases answer : (service.refreshPlan token).answer chronicle.world with
  | error cause =>
    simp only [Program.run_pure, and_true]
    exact .unanswered cause answer
  | ok reply =>
    cases success : reply.isSuccess with
    | false =>
      simp only [success, Bool.not_false, if_true]
      exact ⟨.refused reply answer success, rfl⟩
    | true =>
      simp only [success, Bool.not_true, Bool.false_eq_true, if_false]
      cases states : grantOfBody? reply.body? with
      | none =>
        simp only [Program.run_pure, and_true]
        exact .unreadable reply answer success states
      | some grant =>
        simp only [Program.run_sequence, run_keepGrant]
        generalize amounts : ofGrant grant _ = credential
        cases result : (service.saving credential
            ((service.refreshPlan token).later chronicle.world)).1 with
        | ok done =>
          simp only [Except.map, Program.run_pure, and_true]
          exact .renewed reply grant credential answer success states amounts.symm result
        | error problem =>
          simp only [Except.map, Program.run_pure, and_true]
          exact .unsaved reply grant credential problem answer success states amounts.symm result

/-- The exchange of a renewal brings a new credential: it is answered with a success that states a
grant, and the record of that grant, which expires as long after the answer as the grant says, is
saved. -/
structure Renews (service : Service) (exchange : Exchange) (renewed : Credential) (next : World) :
    Prop where
  granted : ∃ reply grant, exchange.reply? = some reply ∧ reply.isSuccess = true ∧
    StatesGrant reply grant ∧ renewed.IsRecordOf grant exchange.after.now
  saved : (service.saving renewed exchange.after).1 = .ok ()
  next : next = service.savedWorld renewed exchange.after

/-- The server answers the request of an exchange, and the answer is no success. -/
def TurnsDown (exchange : Exchange) : Prop :=
  ∃ reply, exchange.reply? = some reply ∧ reply.isSuccess = false

variable {service : Service} {token : String} {world next : World} {renewed : Credential}
variable {request : Request} {exchange : Exchange}

/-- A renewal that was sent ends in a credential exactly when its exchange brings that
credential. -/
theorem Renewal.some_iff (built : (service.refreshPlan token).build = .ok request)
    {credential? : Option Credential} {last : World}
    (renewal : service.Renewal token world credential? last) :
    credential? = some renewed ∧ last = next ↔ service.Renews (.of request world) renewed next := by
  obtain ⟨_, later, answers⟩ := Plan.sends_of_build built world
  constructor
  · rintro ⟨rfl, rfl⟩
    cases renewal with
    | renewed reply grant _ answer success states amounts saved =>
      rw [later] at amounts saved ⊢
      exact ⟨⟨reply, grant, (answers reply).mp answer, success, grantOfBody?_eq_some_iff.mp states,
        isRecordOf_iff.mpr amounts⟩, saved, rfl⟩
  · rintro ⟨⟨reply, grant, replied, success, states, isRecord⟩, saved, rfl⟩
    have answer := (answers reply).mpr replied
    have reads := grantOfBody?_eq_some_iff.mpr states
    obtain rfl := isRecordOf_iff.mp isRecord
    rw [← later] at saved ⊢
    cases renewal with
    | unanswered cause otherwise =>
      rw [answer] at otherwise
      cases otherwise
    | refused other otherwise failure =>
      obtain rfl : reply = other := by simpa [answer] using otherwise
      rw [success] at failure
      cases failure
    | unreadable other otherwise succeeded nothing =>
      obtain rfl : reply = other := by simpa [answer] using otherwise
      rw [reads] at nothing
      cases nothing
    | unsaved other stated _ problem otherwise succeeded readsOther amounts failed =>
      obtain rfl : reply = other := by simpa [answer] using otherwise
      obtain rfl : grant = stated := by simpa [reads] using readsOther
      rw [← amounts, failed] at saved
      cases saved
    | renewed other stated _ otherwise succeeded readsOther amounts kept =>
      obtain rfl : reply = other := by simpa [answer] using otherwise
      obtain rfl : grant = stated := by simpa [reads] using readsOther
      exact ⟨congrArg some amounts, by rw [amounts]⟩

/-- A renewal that cannot be sent ends in nothing and changes nothing. -/
theorem Renewal.eq_of_unbuilt {cause : NetworkError}
    (unbuilt : (service.refreshPlan token).build = .error cause)
    {credential? : Option Credential} {last : World}
    (renewal : service.Renewal token world credential? last) :
    credential? = none ∧ last = world := by
  obtain ⟨_, later, unanswered⟩ := Plan.unsent_of_build unbuilt world
  have noReply (reply : Reply) : (service.refreshPlan token).answer world ≠ .ok reply := by
    rw [unanswered]
    exact nofun
  cases renewal with
  | unanswered cause answer => exact ⟨rfl, later⟩
  | refused reply answer => exact absurd answer (noReply reply)
  | unreadable reply answer => exact absurd answer (noReply reply)
  | unsaved reply grant credential problem answer => exact absurd answer (noReply reply)
  | renewed reply grant credential answer => exact absurd answer (noReply reply)

/-- The new credential is in the file after a renewal that brings it. -/
theorem Renews.stored (wellFormed : exchange.after.disk.WellFormed)
    (renews : service.Renews exchange renewed next) :
    service.stored next = .ok (Utf8.encode renewed.text.toList) := by
  rw [renews.next]
  exact read_saveOn wellFormed renews.saved

/-- A renewal that brings a new credential leaves each entry of the disk in a directory. -/
theorem Renews.wellFormed (wellFormed : exchange.after.disk.WellFormed)
    (renews : service.Renews exchange renewed next) : next.disk.WellFormed := by
  rw [renews.next]
  exact saveOn_wellFormed wellFormed

/-- A renewal that ends in nothing leaves no credential file when it was turned down, and leaves in
the file what was there in all other cases. -/
theorem Renewal.stored_of_none (built : (service.refreshPlan token).build = .ok request)
    (wellFormed : world.disk.WellFormed) {held : List UInt8}
    (readable : service.stored world = .ok held)
    (renewal : service.Renewal token world none next) :
    (TurnsDown (.of request world) → service.stored next = .error .notFound) ∧
      (¬ TurnsDown (.of request world) → service.stored next = service.stored world) := by
  obtain ⟨_, _, answers⟩ := Plan.sends_of_build built world
  have laterReadable : service.stored ((service.refreshPlan token).later world) = .ok held := by
    rwa [Service.stored, Plan.later_disk]
  have laterWellFormed : ((service.refreshPlan token).later world).disk.WellFormed := by
    rwa [Plan.later_disk]
  have successful (reply : Reply) (answer : (service.refreshPlan token).answer world = .ok reply)
      (success : reply.isSuccess = true) : ¬ TurnsDown (.of request world) := by
    rintro ⟨other, otherwise, failure⟩
    obtain rfl : reply = other := by simpa [(answers other).mpr otherwise, eq_comm] using answer
    rw [success] at failure
    cases failure
  rw [readable]
  cases renewal with
  | unanswered cause answer =>
    refine ⟨?_, fun _ => laterReadable⟩
    rintro ⟨reply, otherwise, _⟩
    rw [(answers reply).mpr otherwise] at answer
    cases answer
  | refused reply answer failure =>
    exact ⟨fun _ => read_clear_of_read laterWellFormed laterReadable,
      fun upheld => absurd ⟨reply, (answers reply).mp answer, failure⟩ upheld⟩
  | unreadable reply answer success nothing =>
    exact ⟨fun down => absurd down (successful reply answer success), fun _ => laterReadable⟩
  | unsaved reply grant credential problem answer success states amounts failed =>
    exact ⟨fun down => absurd down (successful reply answer success),
      fun _ => read_saveOn_failed laterWellFormed failed laterReadable⟩

end DashboardTools.Service
