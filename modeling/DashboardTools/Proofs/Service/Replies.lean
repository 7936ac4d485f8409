import DashboardTools.Proofs.Json.Records
import DashboardTools.Service.Device

/-!
# What replies state

A token endpoint is understood when its reply states a grant, a device endpoint when it states an
authorization, and a refusal when its text states an error code. Each of them is a record with
fields of certain kinds. Nothing is said here about how replies are read; reading them finds exactly
what they state. What is kept of a grant is a credential, which is described by its fields as well.
-/

namespace DashboardTools

open DashboardTools.Http
open DashboardTools.Json
open DashboardTools.Text

/-- The body of a reply came to its end and is the text of a raw value. All of its bytes have to be
characters, those in fields that do not matter included. -/
def Http.Reply.Carries (reply : Reply) (raw : Raw) : Prop :=
  ∃ bytes text, reply.body? = some bytes ∧ Utf8.decode? bytes = some text ∧ IsDocument text raw

/-- A record of a grant has the four fields that make one, each in its kind. It may have others. -/
structure TokenGrant.IsIn (grant : TokenGrant) (raw : Raw) : Prop where
  isRecord : raw.IsRecord fieldNames
  accessToken : raw.HoldsText fieldNames "access_token" grant.accessToken
  refreshToken : raw.HoldsText fieldNames "refresh_token" grant.refreshToken
  expiresIn : raw.HoldsNatural fieldNames "expires_in" grant.expiresIn
  tokenType : raw.HoldsText fieldNames "token_type" grant.tokenType

/-- A record of an authorization has the six fields that make one, each in its kind. An empty
complete address is still one that is there. -/
structure DeviceAuthorization.IsIn (authorization : DeviceAuthorization) (raw : Raw) : Prop where
  isRecord : raw.IsRecord fieldNames
  deviceCode : raw.HoldsText fieldNames "device_code" authorization.deviceCode
  userCode : raw.HoldsText fieldNames "user_code" authorization.userCode
  verificationAddress :
    raw.HoldsText fieldNames "verification_uri" authorization.verificationAddress
  completeAddress :
    raw.HoldsText fieldNames "verification_uri_complete" authorization.completeAddress
  expiresIn : raw.HoldsNatural fieldNames "expires_in" authorization.expiresIn
  interval : raw.HoldsNatural fieldNames "interval" authorization.interval

/-- A credential is the record of a grant that came at this time: it has the tokens of the grant and
their type, and it expires as many seconds after that time as the grant says. -/
structure Credential.IsRecordOf (credential : Credential) (grant : TokenGrant) (now : Float) :
    Prop where
  accessToken : credential.accessToken = grant.accessToken
  refreshToken : credential.refreshToken = grant.refreshToken
  expiresAt : credential.expiresAt = now + Float.ofNat grant.expiresIn
  tokenType : credential.tokenType = grant.tokenType

/-- The record of a grant is what the grant amounts to, and there is no other record of it. -/
theorem Credential.isRecordOf_iff {credential : Credential} {grant : TokenGrant} {now : Float} :
    credential.IsRecordOf grant now ↔ credential = ofGrant grant now := by
  constructor
  · rintro ⟨access, refresh, expires, kind⟩
    cases credential
    simp only [ofGrant, Credential.mk.injEq]
    exact ⟨access, refresh, expires, kind⟩
  · rintro rfl
    exact ⟨rfl, rfl, rfl, rfl⟩

namespace Service

/-- A reply states a grant when its body is a document that has the grant in it. -/
def StatesGrant (reply : Reply) (grant : TokenGrant) : Prop :=
  ∃ raw, reply.Carries raw ∧ grant.IsIn raw

/-- A reply states an authorization when its body is a document that has the authorization in it. -/
def StatesAuthorization (reply : Reply) (authorization : DeviceAuthorization) : Prop :=
  ∃ raw, reply.Carries raw ∧ authorization.IsIn raw

/-- The text of a refusal states an error code: it is a record whose field for the error is there
and a text. -/
def StatesCode (text code : String) : Prop :=
  ∃ raw, IsDocument text.toList raw ∧ raw.IsRecord ["error"] ∧ raw.HoldsText ["error"] "error" code

end Service

/-- A record is read from a text exactly when the text is a document and the record can be read of
its raw value. -/
theorem Json.Record.parse?_eq_some_iff {names : List String} {text : List Char} {record : Record} :
    Record.parse? names text = some record ↔
      ∃ raw, IsDocument text raw ∧ raw.record? names = some record := by
  rw [Record.parse?, Option.bind_eq_some_iff]
  simp only [Raw.parse?_eq_some_iff]

/-- A grant is read from a text exactly when the text is a document that has the grant in it. -/
theorem TokenGrant.parse?_eq_some_iff {text : List Char} {grant : TokenGrant} :
    parse? text = some grant ↔ ∃ raw, IsDocument text raw ∧ grant.IsIn raw := by
  have distinct : fieldNames.Nodup := by decide
  simp only [parse?, Option.bind_eq_bind, Option.bind_eq_some_iff, Record.parse?_eq_some_iff]
  constructor
  · rintro ⟨record, ⟨raw, states, read⟩, access, hasAccess, refresh, hasRefresh, lifetime,
      hasLifetime, kind, hasKind, ⟨⟩⟩
    exact ⟨raw, states, exists_record?_iff.mp ⟨record, read⟩,
      (text?_of_record? distinct read (by decide)).mp hasAccess,
      (text?_of_record? distinct read (by decide)).mp hasRefresh,
      (natural?_of_record? distinct read (by decide)).mp hasLifetime,
      (text?_of_record? distinct read (by decide)).mp hasKind⟩
  · rintro ⟨raw, states, isIn⟩
    obtain ⟨record, read⟩ := exists_record?_iff.mpr isIn.isRecord
    exact ⟨record, ⟨raw, states, read⟩,
      _, (text?_of_record? distinct read (by decide)).mpr isIn.accessToken,
      _, (text?_of_record? distinct read (by decide)).mpr isIn.refreshToken,
      _, (natural?_of_record? distinct read (by decide)).mpr isIn.expiresIn,
      _, (text?_of_record? distinct read (by decide)).mpr isIn.tokenType, rfl⟩

/-- An authorization is read from a text exactly when the text is a document that has the
authorization in it. -/
theorem DeviceAuthorization.parse?_eq_some_iff {text : List Char}
    {authorization : DeviceAuthorization} :
    parse? text = some authorization ↔ ∃ raw, IsDocument text raw ∧ authorization.IsIn raw := by
  have distinct : fieldNames.Nodup := by decide
  simp only [parse?, Option.bind_eq_bind, Option.bind_eq_some_iff, Record.parse?_eq_some_iff]
  constructor
  · rintro ⟨record, ⟨raw, states, read⟩, device, hasDevice, user, hasUser, address, hasAddress,
      complete, hasComplete, lifetime, hasLifetime, interval, hasInterval, ⟨⟩⟩
    exact ⟨raw, states, exists_record?_iff.mp ⟨record, read⟩,
      (text?_of_record? distinct read (by decide)).mp hasDevice,
      (text?_of_record? distinct read (by decide)).mp hasUser,
      (text?_of_record? distinct read (by decide)).mp hasAddress,
      (text?_of_record? distinct read (by decide)).mp hasComplete,
      (natural?_of_record? distinct read (by decide)).mp hasLifetime,
      (natural?_of_record? distinct read (by decide)).mp hasInterval⟩
  · rintro ⟨raw, states, isIn⟩
    obtain ⟨record, read⟩ := exists_record?_iff.mpr isIn.isRecord
    exact ⟨record, ⟨raw, states, read⟩,
      _, (text?_of_record? distinct read (by decide)).mpr isIn.deviceCode,
      _, (text?_of_record? distinct read (by decide)).mpr isIn.userCode,
      _, (text?_of_record? distinct read (by decide)).mpr isIn.verificationAddress,
      _, (text?_of_record? distinct read (by decide)).mpr isIn.completeAddress,
      _, (natural?_of_record? distinct read (by decide)).mpr isIn.expiresIn,
      _, (natural?_of_record? distinct read (by decide)).mpr isIn.interval, rfl⟩

namespace Service

/-- A grant is found in a reply exactly when the reply states it. -/
theorem grantOfBody?_eq_some_iff {reply : Reply} {grant : TokenGrant} :
    grantOfBody? reply.body? = some grant ↔ StatesGrant reply grant := by
  simp only [grantOfBody?, Option.bind_eq_bind, Option.bind_eq_some_iff,
    TokenGrant.parse?_eq_some_iff]
  constructor
  · rintro ⟨bytes, came, text, decoded, raw, states, isIn⟩
    exact ⟨raw, ⟨bytes, text, came, decoded, states⟩, isIn⟩
  · rintro ⟨raw, ⟨bytes, text, came, decoded, states⟩, isIn⟩
    exact ⟨bytes, came, text, decoded, raw, states, isIn⟩

/-- An error code is found in a text exactly when the text states it. -/
theorem errorCode?_eq_some_iff {text code : String} :
    errorCode? text = some code ↔ StatesCode text code := by
  have distinct : ["error"].Nodup := by decide
  simp only [errorCode?, Option.join_eq_some_iff, Option.bind_eq_some_iff,
    Record.parse?_eq_some_iff]
  constructor
  · rintro ⟨record, ⟨raw, states, read⟩, hasCode⟩
    exact ⟨raw, states, exists_record?_iff.mp ⟨record, read⟩,
      (optionalText?_of_record? distinct read (by decide)).mp hasCode⟩
  · rintro ⟨raw, states, isRecord, holds⟩
    obtain ⟨record, read⟩ := exists_record?_iff.mpr isRecord
    exact ⟨record, ⟨raw, states, read⟩,
      (optionalText?_of_record? distinct read (by decide)).mpr holds⟩

end Service

end DashboardTools
