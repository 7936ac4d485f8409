import Mathlib.Control.Monad.Basic
import DashboardTools.Proofs.Credential.SaveOutcome
import DashboardTools.Proofs.Service.Authorizing
import DashboardTools.Proofs.Service.Calling
import DashboardTools.Proofs.Service.Replies

/-!
# The course of a poll

A poll is one exchange, and what its answer states decides everything else. A success that states a
grant is the only answer after which anything is written: the record of the grant, which expires as
long after the answer as the grant says. Of the refusals with status 400, three codes tell how the
login stands, and all others are errors that carry the code, or the whole text where there is none.
A poll never clears the session, and a record that cannot be saved leaves every file as it was.
-/

namespace DashboardTools

open DashboardTools.Credential
open DashboardTools.Disk
open DashboardTools.Http
open DashboardTools.Text

/-- The code by which the server tells how a login stands. -/
def PollOutcome.code? : PollOutcome → Option String
  | .granted _ => none
  | .pending => some "authorization_pending"
  | .expired => some "expired_token"
  | .denied => some "access_denied"

namespace Service

/-- A poll brings a grant: its answer is a success and states the grant. -/
def BringsGrant (service : Service) (deviceCode : String) (world : World) (grant : TokenGrant) : Prop :=
  ∃ reply, (service.pollPlan deviceCode).answer world = .ok reply ∧ reply.isSuccess = true ∧
    StatesGrant reply grant

/-- A poll is refused with status 400, and with this text. -/
def RefusesPoll (service : Service) (deviceCode : String) (world : World) (text : String) : Prop :=
  ∃ reply, (service.pollPlan deviceCode).answer world = .ok reply ∧ reply.status = 400 ∧
    reply.bodyText = text

/-- The record of a grant that a poll brings. Its time of expiry counts from the answer. -/
def broughtRecord (service : Service) (deviceCode : String) (world : World) (grant : TokenGrant) :
    Credential :=
  ofGrant grant ((service.pollPlan deviceCode).later world).now

/-- What saving the record of a grant that a poll brings comes to. -/
def broughtSave (service : Service) (deviceCode : String) (world : World) (grant : TokenGrant) :
    Except Problem Unit :=
  (service.saving (service.broughtRecord deviceCode world grant)
    ((service.pollPlan deviceCode).later world)).1

/-- A refusal tells how a login stands exactly when it states the code for that. -/
theorem refusal_eq_ok_iff {text : String} {outcome : PollOutcome} :
    refusal text = .ok outcome ↔ ∃ code, outcome.code? = some code ∧ StatesCode text code := by
  simp only [← errorCode?_eq_some_iff]
  unfold refusal
  constructor
  · intro told
    split at told
    next pending =>
      obtain rfl := Except.ok.inj told
      exact ⟨_, rfl, pending⟩
    next expired =>
      obtain rfl := Except.ok.inj told
      exact ⟨_, rfl, expired⟩
    next denied =>
      obtain rfl := Except.ok.inj told
      exact ⟨_, rfl, denied⟩
    next => cases told
    next => cases told
  · rintro ⟨code, stands, states⟩
    cases outcome with
    | granted grant => cases stands
    | pending | expired | denied =>
      obtain rfl := Option.some.inj stands
      simp only [states]

variable {service : Service} {deviceCode : String} {world last : World}
variable {result : Except AuthError PollOutcome}

/-- Only a poll that brings a grant is granted its token. -/
theorem Polled.brings {grant : TokenGrant}
    (polled : service.Polled deviceCode world (.ok (.granted grant)) last) :
    service.BringsGrant deviceCode world grant ∧
      service.broughtSave deviceCode world grant = .ok () := by
  obtain ⟨reply, answer, success, states, saved⟩ := polled.exists_grant
  exact ⟨⟨reply, answer, success, grantOfBody?_eq_some_iff.mp states⟩, saved⟩

/-- Only a refused poll is told how the login stands. -/
theorem Polled.refuses {outcome : PollOutcome} {code : String} (stands : outcome.code? = some code)
    (polled : service.Polled deviceCode world (.ok outcome) last) :
    ∃ text, service.RefusesPoll deviceCode world text ∧ StatesCode text code := by
  have ungranted (grant : TokenGrant) : outcome ≠ .granted grant := by
    rintro rfl
    cases stands
  obtain ⟨reply, answer, bad, told, _⟩ := polled.exists_refusal ungranted
  obtain ⟨other, same, states⟩ := refusal_eq_ok_iff.mp told
  obtain rfl := Option.some.inj (stands.symm.trans same)
  exact ⟨reply.bodyText, ⟨reply, answer, bad, rfl⟩, states⟩

end Service

end DashboardTools
