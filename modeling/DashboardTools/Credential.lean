import DashboardTools.Calendar
import DashboardTools.Json.Printer
import DashboardTools.Json.Record

/-!
# Credentials

A credential is the session that a login leaves behind: an access token with its time of expiry
and the refresh token that renews it. The token endpoints grant the same with a lifetime in place
of the time of expiry. A credential is kept as a text, which is read leniently in one respect only:
fields of other names do not matter.
-/

namespace DashboardTools

open DashboardTools.Json

/-- The session that is kept between calls. `expiresAt` counts seconds since 1970. -/
structure Credential where
  accessToken : String
  refreshToken : String
  expiresAt : Float
  tokenType : String

/-- What a token endpoint grants; `expiresIn` is a lifetime in seconds. -/
structure TokenGrant where
  accessToken : String
  refreshToken : String
  expiresIn : Nat
  tokenType : String
  deriving DecidableEq

/-- How many seconds before its expiry an access token is renewed. -/
def refreshBuffer : Float := 300.0

namespace Credential

/-- The credential that a grant received at `now` amounts to. -/
def ofGrant (grant : TokenGrant) (now : Float) : Credential where
  accessToken := grant.accessToken
  refreshToken := grant.refreshToken
  expiresAt := now + Float.ofNat grant.expiresIn
  tokenType := grant.tokenType

/-- Whether the access token is to be renewed at `now`. -/
def needsRefresh (credential : Credential) (now : Float) : Bool :=
  decide (credential.expiresAt - refreshBuffer < now)

/-- The moment of expiry, in whole milliseconds towards zero, if the calendar shows it. -/
def expiry? (credential : Credential) : Option Calendar.Moment :=
  Calendar.Moment.ofMillis? (credential.expiresAt * 1000.0).toInt64.toInt

/-- The names of the fields, in the order in which they are written. -/
def fieldNames : List String := ["access_token", "refresh_token", "expires_at", "token_type"]

/-- The credential as an object, with its fields in the order in which they are written to a
file. -/
def toValue (credential : Credential) : Value :=
  .object [("access_token", .string credential.accessToken),
    ("refresh_token", .string credential.refreshToken),
    ("expires_at", .float credential.expiresAt), ("token_type", .string credential.tokenType)]

/-- The text that keeps a credential in a file: its object, set out over several lines. -/
def text (credential : Credential) : String := credential.toValue.pretty

/-- The credential that a text keeps. All four fields must be there in their kinds; other fields are
passed over, and so is their order. -/
def parse? (text : List Char) : Option Credential := do
  let record ← Record.parse? fieldNames text
  some {
    accessToken := ← record.text? "access_token"
    refreshToken := ← record.text? "refresh_token"
    expiresAt := ← record.float? "expires_at"
    tokenType := ← record.text? "token_type" }

end Credential

namespace TokenGrant

/-- The names of the fields, in the order in which they are written. -/
def fieldNames : List String := ["access_token", "refresh_token", "expires_in", "token_type"]

/-- The grant as an object, with its fields in the order in which a server sends them. -/
def toValue (grant : TokenGrant) : Value :=
  .object [("access_token", .string grant.accessToken),
    ("refresh_token", .string grant.refreshToken),
    ("expires_in", .int grant.expiresIn), ("token_type", .string grant.tokenType)]

/-- The grant that a text states. All four fields must be there in their kinds, and the time must be
a whole number of seconds. -/
def parse? (text : List Char) : Option TokenGrant := do
  let record ← Record.parse? fieldNames text
  some {
    accessToken := ← record.text? "access_token"
    refreshToken := ← record.text? "refresh_token"
    expiresIn := ← record.natural? "expires_in"
    tokenType := ← record.text? "token_type" }

end TokenGrant

end DashboardTools
