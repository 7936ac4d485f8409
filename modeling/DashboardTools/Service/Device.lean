import DashboardTools.Service.Refresh

/-!
# Authorizing a device

The authorization server gives a device code and a code for the user, who grants or denies access
in a browser. Meanwhile the device asks for its token, once for each poll. A granted token is saved
before the poll answers; no poll ever clears a session.
-/

namespace DashboardTools

open DashboardTools.Json
open DashboardTools.Text

/-- What the authorization server gives to a device; times count seconds. -/
structure DeviceAuthorization where
  deviceCode : String
  userCode : String
  verificationAddress : String
  completeAddress : String
  expiresIn : Nat
  interval : Nat
  deriving DecidableEq

namespace DeviceAuthorization

/-- The names of the fields, in the order in which they are written. -/
def fieldNames : List String :=
  ["device_code", "user_code", "verification_uri", "verification_uri_complete", "expires_in",
   "interval"]

/-- The authorization as an object, with its fields in the order in which a server sends them. -/
def toValue (authorization : DeviceAuthorization) : Value :=
  .object [("device_code", .string authorization.deviceCode),
    ("user_code", .string authorization.userCode),
    ("verification_uri", .string authorization.verificationAddress),
    ("verification_uri_complete", .string authorization.completeAddress),
    ("expires_in", .int authorization.expiresIn), ("interval", .int authorization.interval)]

/-- The authorization that a text states. All six fields must be there in their kinds; others are
passed over. -/
def parse? (text : List Char) : Option DeviceAuthorization := do
  let record ← Record.parse? fieldNames text
  some {
    deviceCode := ← record.text? "device_code"
    userCode := ← record.text? "user_code"
    verificationAddress := ← record.text? "verification_uri"
    completeAddress := ← record.text? "verification_uri_complete"
    expiresIn := ← record.natural? "expires_in"
    interval := ← record.natural? "interval" }

end DeviceAuthorization

/-- What a poll finds out about a login, when it is not an error. -/
inductive PollOutcome where
  | granted (grant : TokenGrant)
  | pending
  | expired
  | denied
  deriving DecidableEq

namespace Service

open DashboardTools.Http

/-- The name under which the device asks for access. It is the same for every user. -/
def clientName : String := "claude-code-plugin"

/-- The kind of grant that a device asks for, as the standard for device logins names it. -/
def deviceGrantType : String := "urn:ietf:params:oauth:grant-type:device_code"

/-- Asks for a device code. As with a grant, the body that answers has to be a text as a whole. -/
def startDevice (service : Service) : SessionProgram (Except AuthError DeviceAuthorization) := do
  let body : Value := .object [("client_id", .string clientName)]
  match ← (service.authPlan "/v1/auth/device" body).send with
  | .error cause => pure (.error (.network cause))
  | .ok reply =>
    if !reply.isSuccess then
      pure (.error (.server ("Failed to request device code: " ++ reply.bodyText)))
    else
      match (reply.body?.bind Utf8.decode?).bind DeviceAuthorization.parse? with
      | some authorization => pure (.ok authorization)
      | none => pure (.error (.network .unreadable))

/-- The body of a poll: who asks, for which login, and for what kind of grant. -/
def pollBody (deviceCode : String) : Value :=
  .object [("client_id", .string clientName), ("device_code", .string deviceCode),
    ("grant_type", .string deviceGrantType)]

/-- The code of the error that a body states, if it states one. -/
def errorCode? (text : String) : Option String :=
  ((Record.parse? ["error"] text.toList).bind fun record => record.optionalText? "error").join

/-- What a refusal with status 400 says. Three codes tell how the login stands; any other, slow_down
included, is an error. -/
def refusal (text : String) : Except AuthError PollOutcome :=
  match errorCode? text with
  | some "authorization_pending" => .ok .pending
  | some "expired_token" => .ok .expired
  | some "access_denied" => .ok .denied
  | some other => .error (.server ("Token error: " ++ other))
  | none => .error (.server ("Token error: " ++ text))

/-- Interprets the reply to a poll. A grant counts only once its record is saved. -/
def receivePoll (service : Service) (reply : Reply) :
    SessionProgram (Except AuthError PollOutcome) :=
  if reply.status = 400 then pure (refusal reply.bodyText)
  else if !reply.isSuccess then
    pure (.error (.server ("Failed to get token: " ++ reply.bodyText)))
  else
    match grantOfBody? reply.body? with
    | none => pure (.error (.network .unreadable))
    | some grant => do
      match ← service.keepGrant grant with
      | .ok _ => pure (.ok (.granted grant))
      | .error problem => pure (.error (.io problem.message))

/-- Asks once whether access was granted. Whether to ask again is left to the caller. -/
def poll (service : Service) (deviceCode : String) :
    SessionProgram (Except AuthError PollOutcome) := do
  match ← (service.authPlan "/v1/auth/device/token" (pollBody deviceCode)).send with
  | .error cause => pure (.error (.network cause))
  | .ok reply => service.receivePoll reply

end Service

end DashboardTools
