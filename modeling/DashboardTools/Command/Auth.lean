import DashboardTools.Service.Device

/-!
# Logging in and out at the command line

A login shows the user where to enter which code and polls until access is granted or denied or
the time given for it is over. It waits before every poll, at least a second, and looks at the time
only after a poll that found nothing yet. The status tells whether there is a session and when it
ends.
-/

namespace DashboardTools.Command

/-- Why a login fails. Besides an error, the time given for it may lie beyond what the monotonic
clock can count. -/
inductive LoginFailure where
  | error (error : Error)
  | clockOverflow
  deriving DecidableEq

/-- How many seconds the monotonic clock can count. A deadline beyond them cannot be computed. -/
def clockLimit : Nat := Nat.pow 2 63 - 1

/-- The seconds to wait before a poll: those the server asks for, and never less than one. -/
def pollInterval (seconds : Nat) : Nat := max seconds 1

/-- The failure when the time for a login is over and the user has not decided. -/
def expiredFailure : LoginFailure := .error (.authServer "Device code expired, please try again")

/-- The failure when the user was asked for access and denied it. -/
def deniedFailure : LoginFailure := .error (.authServer "Authorization denied")

/-- Polls until something is decided. The fuel bounds the number of polls; `deadline` is the time
in milliseconds from which on a pending poll is the last. -/
def pollUntil (service : Service) (deviceCode : String) (interval deadline : Nat) :
    (fuel : Nat) → SessionProgram (Except LoginFailure TokenGrant)
  | 0 => pure (.error expiredFailure)
  | fuel + 1 => do
    SessionProgram.ask (.sleep interval)
    match ← service.poll deviceCode with
    | .error error => pure (.error (.error error.toError))
    | .ok (.granted grant) => pure (.ok grant)
    | .ok .expired => pure (.error expiredFailure)
    | .ok .denied => pure (.error deniedFailure)
    | .ok .pending => do
      let now ← SessionProgram.ask .monotonicClock
      if now < deadline then pollUntil service deviceCode interval deadline fuel
      else pure (.error expiredFailure)

/-- The lines that tell the user what to do: where to go, which code to enter, and the complete
address if the server gave one. -/
def instructions (authorization : DeviceAuthorization) : List String :=
  ["🔗 Visit: " ++ authorization.verificationAddress,
   "📋 Enter code: " ++ authorization.userCode] ++
  (if authorization.completeAddress.isEmpty then []
   else ["   Or open: " ++ authorization.completeAddress]) ++
  ["⏳ Waiting for authorization..."]

/-- Prints lines in their order, one effect for each. -/
def printAll : List String → SessionProgram Unit
  | [] => pure ()
  | line :: rest => do
    SessionProgram.ask (.print line)
    printAll rest

/-- Waits for the user with an authorization in hand. As every poll is preceded by a whole interval,
one poll more than there are intervals in the time given is enough. -/
def await (service : Service) (authorization : DeviceAuthorization) :
    SessionProgram (Except LoginFailure TokenGrant) := do
  printAll (instructions authorization)
  let interval := pollInterval authorization.interval
  let now ← SessionProgram.ask .monotonicClock
  if clockLimit < now / 1000 + authorization.expiresIn then pure (.error .clockOverflow)
  else
    pollUntil service authorization.deviceCode interval (now + 1000 * authorization.expiresIn)
      (authorization.expiresIn / interval + 1)

/-- Obtains a credential by a device login: asks for a code, and then waits until the user has
decided or the time is over. -/
def login (service : Service) : SessionProgram (Except LoginFailure TokenGrant) := do
  match ← service.startDevice with
  | .error error => pure (.error (.error error.toError))
  | .ok authorization => await service authorization

/-- The command that logs in. Only a login that was granted is reported as a success, with the file
that keeps the session. -/
def runLogin (configuration : Configuration) : SessionProgram (Except LoginFailure Unit) := do
  match ← login configuration.service with
  | .error failure => pure (.error failure)
  | .ok _ => do
    SessionProgram.ask (.print "✅ Astralform login successful!")
    SessionProgram.ask (.print ("   Credentials: " ++ configuration.credentialPath))
    pure (.ok ())

/-- The line that tells about a session: whether there is one, when it expires, and whether it is
due to be refreshed. -/
def statusLine (credential? : Option Credential) (now : Float) : String :=
  match credential? with
  | none => "❌ Not logged in"
  | some credential =>
    let expiry := match credential.expiry? with
      | some moment => String.ofList moment.minuteText ++ " UTC"
      | none => "unknown"
    if credential.needsRefresh now then
      "⚠️  Token expiring or expired at " ++ expiry ++ " (refreshes on next use)"
    else "✅ Logged in (expires " ++ expiry ++ ")"

/-- The command that tells about the session. It reads the credential file and prints; it asks the
service nothing. -/
def runStatus (configuration : Configuration) : SessionProgram Unit := do
  SessionProgram.ask (.print "🔐 Authentication Status\n")
  let now ← SessionProgram.ask .wallClock
  let credential? ← SessionProgram.ask (.load configuration.service.credentialFile)
  SessionProgram.ask (.print ("  " ++ statusLine credential? now))
  SessionProgram.ask (.print ("  API: " ++ configuration.apiBase))
  SessionProgram.ask (.print ("  Credentials: " ++ configuration.credentialPath))

/-- The command that logs out. It clears the credential file, whether or not one is there, and tells
no server. -/
def runLogout (configuration : Configuration) : SessionProgram Unit := do
  SessionProgram.ask (.clear configuration.service.credentialFile)
  SessionProgram.ask (.print "✅ Logged out from Astralform")

end DashboardTools.Command
