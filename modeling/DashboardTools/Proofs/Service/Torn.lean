import DashboardTools.Proofs.Json.Beginnings
import DashboardTools.Proofs.Service.Calling
import DashboardTools.Proofs.Text.Beginnings

/-!
# Torn credential files

A credential file that holds only a beginning of what saving writes keeps no credential, wherever
the writing broke off: the bytes are no text, or the text is no document. So there is no session.
Nothing is asked of the number codec, since the record is never looked at.
-/

namespace DashboardTools.Credential

open DashboardTools.Json
open DashboardTools.Text

/-- Bytes are a beginning of what saving a credential writes, and not all of it. -/
structure IsTorn (credential : Credential) (bytes : List UInt8) : Prop where
  begins : bytes <+: Utf8.encode credential.text.toList
  short : bytes ≠ Utf8.encode credential.text.toList

/-- Whether bytes are torn from a saved credential can be decided by comparing them with its
text. -/
instance (credential : Credential) (bytes : List UInt8) : Decidable (IsTorn credential bytes) :=
  decidable_of_iff (bytes <+: Utf8.encode credential.text.toList ∧
      bytes ≠ Utf8.encode credential.text.toList)
    ⟨fun ⟨begins, short⟩ => ⟨begins, short⟩, fun ⟨begins, short⟩ => ⟨begins, short⟩⟩

/-- The text of a credential is an object, and nothing stands around it. -/
theorem statesRaw_text (credential : Credential) :
    ∃ fields, StatesRaw credential.text.toList (.object fields) := by
  have states := statesRaw_write .pretty credential.toValue 0
  rw [toValue, Value.raw] at states
  rw [text, Value.pretty, String.toList_ofList]
  exact ⟨_, states⟩

/-- No beginning of a credential's text is read as a credential. -/
theorem parse?_of_cut {credential : Credential} {cut : List Char}
    (begins : cut <+: credential.text.toList) (short : cut ≠ credential.text.toList) :
    parse? cut = none := by
  obtain ⟨fields, states⟩ := credential.statesRaw_text
  have noDocument : Raw.parse? cut = none := by
    rw [Option.eq_none_iff_forall_ne_some]
    intro raw parsed
    exact not_isDocument_of_cut states begins short raw ((Raw.parse?_eq_some_iff _ _).mp parsed)
  rw [parse?, Record.parse?, noDocument]
  rfl

/-- A torn file keeps no credential, wherever it was cut. What is left is no text, or no
document. -/
theorem IsTorn.load? {credential : Credential} {bytes : List UInt8}
    (torn : credential.IsTorn bytes) {disk : Disk} {path : Disk.Path}
    (held : disk.read path = .ok bytes) : Credential.load? disk path = none := by
  rw [load?_of_read held]
  cases decoded : Utf8.decode? bytes with
  | none => rfl
  | some cut =>
    obtain ⟨begins, same⟩ := Utf8.beginning_of_decode? torn.begins decoded
    have short : cut ≠ credential.text.toList := fun whole => torn.short (same.trans (by rw [whole]))
    exact parse?_of_cut begins short

end DashboardTools.Credential

namespace DashboardTools.Service

open DashboardTools.Credential
open DashboardTools.Text

/-- A session whose credential file is torn is none, whatever credential was to be saved and
wherever it broke off: nothing is loaded, no token is found, and every call is over without a
request and leaves the world as it was. -/
theorem torn_credentials_are_no_session (service : Service) (world : World)
    (credential : Credential) (bytes : List UInt8) (torn : credential.IsTorn bytes)
    (held : service.stored world = .ok bytes) :
    load? world.disk service.credentialFile = none ∧
      service.accessToken?.run World.handle world = (none, world) ∧
      ∀ path options,
        (service.call path options).run World.handle world = (.error .notAuthenticated, world) ∧
        (service.callForNothing path options).run World.handle world =
          (.error .notAuthenticated, world) := by
  have loggedOut := torn.load? held
  have noToken := run_accessToken_none (.start world) loggedOut
  refine ⟨loggedOut, ?_, fun path options => ⟨?_, ?_⟩⟩
  · have ran := Chronicle.run_world service.accessToken? (.start world)
    rwa [noToken] at ran
  · have ran := Chronicle.run_world (service.call path options) (.start world)
    rwa [run_call, run_callForBody_without _ noToken] at ran
  · have ran := Chronicle.run_world (service.callForNothing path options) (.start world)
    rwa [run_callForNothing, run_callForBody_without _ noToken] at ran

/-- A session whose refresh token has a character of two bytes. -/
def accentedCredential : Credential := ⟨"access", "caf\u00e9", 1700000123.5, "Bearer"⟩

/-- What was written of it when the writing broke off within that character. -/
def tornBytes : List UInt8 := (Utf8.encode accentedCredential.text.toList).take 54

/-- The sample world with that file in the place of the credential file. -/
def tornWorld : World :=
  { sampleWorld with
    disk := Disk.empty.put ["credentials.json".toList, "work".toList] (.file fileMode tornBytes) }

/-- The service that keeps its session there, in the file with the torn bytes. -/
def tornService : Service := ⟨"http://api.test", "credentials.json".toList⟩

/-- A cut within an accented letter leaves bytes that are no text. They are found in the file, and
the call answers that nobody is logged in without sending anything. -/
theorem cut_within_character_is_no_session : accentedCredential.IsTorn tornBytes ∧
    Utf8.decode? tornBytes = none ∧ tornService.stored tornWorld = .ok tornBytes ∧
    (tornService.call "/v1/dashboard/me" (.ofMethod "GET")).run World.handle tornWorld =
      (.error .notAuthenticated, tornWorld) := by
  have torn : accentedCredential.IsTorn tornBytes := by decide +kernel
  have held : tornService.stored tornWorld = .ok tornBytes := rfl
  exact ⟨torn, by decide +kernel, held, ((torn_credentials_are_no_session tornService tornWorld
    accentedCredential tornBytes torn held).2.2 _ _).1⟩

end DashboardTools.Service
