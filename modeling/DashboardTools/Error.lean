import DashboardTools.Decimal.Integer

/-!
# Errors

What can go wrong, by cause, with the words in which it is told. Two audiences are served: a tool's
caller reads the message, and a user at the command line reads the help, which says what to do.
-/

namespace DashboardTools

open DashboardTools.Decimal

/-- Why a request had no readable answer. Where an address was read it is kept for the message. -/
inductive NetworkError where
  /-- The request could not be built; the address is known when it could at least be read. -/
  | unbuildable (url? : Option String)
  /-- No answer came from this address. -/
  | unanswered (url : String)
  /-- The answer broke off or was not what the request asks for. -/
  | unreadable
  deriving DecidableEq

/-- The words for a network error, with the address where one is known. They say nothing of the
cause below it. -/
def NetworkError.message : NetworkError → String
  | .unbuildable none => "builder error"
  | .unbuildable (some url) => "builder error for url (" ++ url ++ ")"
  | .unanswered url => "error sending request for url (" ++ url ++ ")"
  | .unreadable => "error decoding response body"

/-- What can go wrong while obtaining a credential. Each has its counterpart among the errors of any
operation. -/
inductive AuthError where
  /-- The authorization server refused, with these words. -/
  | server (text : String)
  | network (cause : NetworkError)
  /-- A file operation failed for this reason. -/
  | io (reason : String)
  /-- A text is not what it should be. -/
  | serialization
  deriving DecidableEq

/-- What can go wrong in any operation, whether of the service, of the network, of the disk or of
what was given. -/
inductive Error where
  /-- There is no session, or it could not be renewed. -/
  | notAuthenticated
  /-- The server refused the session, which was given up. -/
  | sessionExpired
  | authServer (text : String)
  /-- The service answered with a status other than success. -/
  | api (status : Nat) (body : String)
  | network (cause : NetworkError)
  | io (reason : String)
  | serialization
  | invalidArgument (text : String)
  | docNotFound (path : String)
  | configuration (text : String)
  deriving DecidableEq

/-- An error of obtaining a credential as an error of any operation. -/
def AuthError.toError : AuthError → Error
  | .server text => .authServer text
  | .network cause => .network cause
  | .io reason => .io reason
  | .serialization => .serialization

/-- How a user obtains a session, in the words for somebody who works with the tools. -/
def loginHint : String := "Run /astralform-login (or \x60astralform-mcp auth login\x60)"

/-- The words for a text that cannot be read; a star stands for what the reader found. -/
def serializationMessage : String := "Serialization error: *"

/-- The words for an error of obtaining a credential. What the server said is repeated without
anything in front of it. -/
def AuthError.message : AuthError → String
  | .server text => text
  | .network cause => "Network error: " ++ cause.message
  | .io reason => "IO error: " ++ reason
  | .serialization => serializationMessage

namespace Error

/-- The words for an error, as a tool reports it. Each kind has words of its own in front of its
details. -/
def message : Error → String
  | notAuthenticated => "Not authenticated. " ++ loginHint ++ " to authenticate."
  | sessionExpired => "Session expired. " ++ loginHint ++ " to re-authenticate."
  | authServer text => "Authorization server error: " ++ text
  | api status body => "API error (" ++ .ofList (natText status) ++ "): " ++ body
  | network cause => "Network error: " ++ cause.message
  | io reason => "IO error: " ++ reason
  | serialization => serializationMessage
  | invalidArgument text => "Invalid argument: " ++ text
  | docNotFound path => "Documentation page not found: " ++ path
  | configuration text => "Configuration error: " ++ text

/-- What a user at the command line is told. It names the command that helps, where one does, and
otherwise repeats the error's words. -/
def help : Error → String
  | notAuthenticated => "Not logged in. Run: astralform-mcp auth login"
  | sessionExpired => "Session expired and credentials were cleared. Run: astralform-mcp auth login"
  | authServer text => "Authorization failed: " ++ text ++ ". Run: astralform-mcp auth login"
  | network cause =>
    "Network error: " ++ cause.message ++ ". Check connectivity or ASTRALFORM_API_URL"
  | configuration text =>
    "Configuration error: " ++ text ++ ". Check your .env or ASTRALFORM_* variables"
  | other => other.message

/-- The status that the service answered with, for an error of the service. -/
def status? : Error → Option Nat
  | api status _ => some status
  | _ => none

/-- Whether the user has to log in before trying again. -/
def requiresLogin : Error → Bool
  | notAuthenticated => true
  | sessionExpired => true
  | _ => false

end Error

end DashboardTools
