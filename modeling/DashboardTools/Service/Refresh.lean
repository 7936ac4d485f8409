import DashboardTools.Service.Basic

/-!
# Renewing a credential

A refresh token is exchanged for a new credential, which is saved before it is used. A refusal by
the server ends the session: the credential file is cleared. Anything else that goes wrong leaves
the file as it is.
-/

namespace DashboardTools.Service

open DashboardTools.Http
open DashboardTools.Json
open DashboardTools.Text

/-- The grant that a body states. The body has to be a text as a whole: one with bytes that are no
characters states nothing, wherever they stand, also inside a field whose value does not matter. -/
def grantOfBody? (body? : Option (List UInt8)) : Option TokenGrant := do
  let bytes ← body?
  let text ← Utf8.decode? bytes
  TokenGrant.parse? text

/-- The body of a request to renew, which holds the refresh token and nothing else that is
secret. -/
def refreshBody (refreshToken : String) : Value :=
  .object [("grant_type", .string "refresh_token"), ("refresh_token", .string refreshToken)]

/-- Saves the credential that a grant received now amounts to. -/
def keepGrant (service : Service) (grant : TokenGrant) :
    SessionProgram (Except Disk.Problem Credential) := do
  let now ← SessionProgram.ask .wallClock
  let credential := Credential.ofGrant grant now
  match ← SessionProgram.ask (.save service.credentialFile credential) with
  | .ok () => pure (.ok credential)
  | .error problem => pure (.error problem)

/-- Exchanges a refresh token for a new credential, which is saved before it is answered. A refusal
clears the file. -/
def refresh? (service : Service) (refreshToken : String) : SessionProgram (Option Credential) := do
  match ← (service.authPlan "/v1/auth/refresh" (refreshBody refreshToken)).send with
  | .error _ => pure none
  | .ok reply =>
    if !reply.isSuccess then do
      SessionProgram.ask (.clear service.credentialFile)
      pure none
    else
      match grantOfBody? reply.body? with
      | none => pure none
      | some grant => do
        match ← service.keepGrant grant with
        | .ok credential => pure (some credential)
        | .error _ => pure none

/-- A token that can be used now: the stored one, or a new one when the stored one is about to
expire. -/
def accessToken? (service : Service) : SessionProgram (Option String) := do
  match ← SessionProgram.ask (.load service.credentialFile) with
  | none => pure none
  | some credential => do
    let now ← SessionProgram.ask .wallClock
    if credential.needsRefresh now then do
      let refreshed? ← service.refresh? credential.refreshToken
      pure (refreshed?.map (·.accessToken))
    else pure (some credential.accessToken)

end DashboardTools.Service
