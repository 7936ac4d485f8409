import DashboardTools.Api.Request
import DashboardTools.Service.Refresh

/-!
# Calls to the service

A call is one request under the session's token. A reply that refuses the token ends the session;
any other reply that is no success is an error with its status and text. The body of a success is
JSON, and a body of nothing but blanks counts as null.
-/

namespace DashboardTools.Service

open DashboardTools.Api
open DashboardTools.Http
open DashboardTools.Json
open DashboardTools.Text

/-- Whether a byte is a blank of ASCII. The vertical tab is none of them. -/
def isBlankByte (byte : UInt8) : Bool :=
  byte == 0x20 || byte == 0x09 || byte == 0x0A || byte == 0x0C || byte == 0x0D

/-- The text of a successful body, in which blanks alone stand for null. -/
def textOfBody? (bytes : List UInt8) : Option (List Char) :=
  if bytes.all isBlankByte then some "null".toList else Utf8.decode? bytes

/-- Reads a successful body as a value. A body of blanks is read as null. -/
def decodeBody (bytes : List UInt8) : Except Error Value :=
  match (textOfBody? bytes).bind fun text => Value.parse? (.ofList text) with
  | some value => .ok value
  | none => .error .serialization

/-- Reads a successful body as null. Any other value is an error, although the call has done its
work. -/
def decodeNothing (bytes : List UInt8) : Except Error Unit :=
  match (textOfBody? bytes).bind Raw.parse? with
  | some .null => .ok ()
  | _ => .error .serialization

/-- The plan of a call under a token, which stands in a header whatever the body is. -/
def callPlan (service : Service) (token path : String) (options : RequestOptions) : Plan where
  method := options.method
  address := service.base ++ path
  query := options.query
  isJson := true
  token? := some token
  body? := options.body?

/-- Interprets the reply to a call. A refused token ends the session; nothing else that is answered
does. -/
def receive (service : Service) (reply : Reply) : SessionProgram (Except Error (List UInt8)) :=
  if reply.status = 401 then do
    SessionProgram.ask (.clear service.credentialFile)
    pure (.error .sessionExpired)
  else if !reply.isSuccess then pure (.error (.api reply.status reply.bodyText))
  else
    match reply.body? with
    | none => pure (.error (.network .unreadable))
    | some bytes => pure (.ok bytes)

/-- Calls the service and answers the body of a success. -/
def callForBody (service : Service) (path : String) (options : RequestOptions) :
    SessionProgram (Except Error (List UInt8)) := do
  match ← service.accessToken? with
  | none => pure (.error .notAuthenticated)
  | some token => do
    match ← (service.callPlan token path options).send with
    | .error cause => pure (.error (.network cause))
    | .ok reply => service.receive reply

/-- Calls the service and answers its value, or the error that the call or its body came to. -/
def call (service : Service) (path : String) (options : RequestOptions) :
    SessionProgram (Except Error Value) := do
  match ← service.callForBody path options with
  | .error error => pure (.error error)
  | .ok bytes => pure (decodeBody bytes)

/-- Calls the service for an answer without content, such as that to a deletion. -/
def callForNothing (service : Service) (path : String) (options : RequestOptions) :
    SessionProgram (Except Error Unit) := do
  match ← service.callForBody path options with
  | .error error => pure (.error error)
  | .ok bytes => pure (decodeNothing bytes)

end DashboardTools.Service
