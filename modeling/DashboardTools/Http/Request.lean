import DashboardTools.Error
import DashboardTools.Json.Printer
import DashboardTools.Text.Base64
import DashboardTools.Url.Parse

/-!
# Requests and replies

A request is built from an address as it was configured, and building can fail: the address may
not be one, may not lead to a web server, or the token may hold characters that a header cannot. A
user named in the address is asked for by a header and not by the address. A reply has a status and
a body, unless the connection broke off before the body's end.

A reply carries no headers. Where a server sends a request on to another address, following it is
part of the one sending, and the reply is the last one that comes back.
-/

namespace DashboardTools.Http

open DashboardTools.Json
open DashboardTools.Text

/-- A request that can be sent. The authorization headers stand in the order in which they are
sent. -/
structure Request where
  method : String
  url : Url
  isJson : Bool
  authorization : List (List Char)
  body? : Option Value

/-- An answer to a request; the body is missing when it broke off. -/
structure Reply where
  status : Nat
  body? : Option (List UInt8)
  deriving DecidableEq

/-- Whether the status reports success, which all numbers from 200 to 299 do. -/
def Reply.isSuccess (reply : Reply) : Bool := decide (200 ≤ reply.status ∧ reply.status < 300)

/-- The body as a text, empty when it broke off. -/
def Reply.bodyText (reply : Reply) : String := .ofList (Utf8.decodeLossy (reply.body?.getD []))

/-- Whether a text may be the value of a header: no control characters but the tab. -/
def isHeaderText (text : List Char) : Bool :=
  text.all fun c => (decide (0x20 ≤ c.toNat) && c.toNat != 0x7F) || c == '\t'

/-- The header that asks for access by a token: the token itself after the name of the scheme. -/
def bearer (token : List Char) : List Char := "Bearer ".toList ++ token

/-- The header that asks for access by a user's name and password. -/
def basic (name password : List Char) : List Char :=
  "Basic ".toList ++ Base64.encode (Utf8.encode (name ++ ':' :: password))

/-- The text that percent forms stand for, if the bytes they stand for are a text. -/
def plainText? (text : List Char) : Option (List Char) :=
  Utf8.decode? (Url.percentDecode (Utf8.encode text))

/-- The address without its user, and the header that asks for access in that user's name. -/
def takeUser (url : Url) : Url × List (List Char) :=
  match url.user? with
  | none => (url, [])
  | some user =>
    match plainText? user.name with
    | none => (url, [])
    | some name =>
      let password? := user.password?.bind plainText?
      if name.isEmpty ∧ password?.isNone then (url, [])
      else ({ url with user? := none }, [basic name (password?.getD [])])

/-- Whether an address leads to a web server. No request can be sent to any other. -/
def isWeb (url : Url) : Bool := url.scheme == "http".toList || url.scheme == "https".toList

/-- How many bytes an address may have. A longer one cannot be written in a request. -/
def addressLimit : Nat := 65534

/-- The characters that an address may have in its host and a request may not. -/
def hostForbids (c : Char) : Bool := c == '"' || c == '\x60' || c == '\x7b' || c == '\x7d'

/-- Whether an address can be written in a request: its host has no forbidden character, and it is
not too long. -/
def isWritable (url : Url) : Bool :=
  !(url.host?.getD []).any hostForbids && decide (url.text.length ≤ addressLimit)

/-- What a request is built from. The address is not yet read, and the token not yet checked. -/
structure Plan where
  method : String
  address : String
  query : List (String × String)
  isJson : Bool
  token? : Option String
  body? : Option Value

/-- Builds a request, or says why there is none. Nothing is sent by this, so a request that cannot
be built costs nothing. -/
def Plan.build (plan : Plan) : Except NetworkError Request :=
  match Url.parse? plan.address.toList with
  | none => .error (.unbuildable none)
  | some url =>
    if !url.hasHost then .error (.unbuildable (some (.ofList url.text)))
    else
      let (place, userHeaders) := takeUser url
      let url := place.withPairs (plan.query.map fun pair => (pair.1.toList, pair.2.toList))
      let tokenHeaders := plan.token?.toList.map fun token => bearer token.toList
      if !tokenHeaders.all isHeaderText then .error (.unbuildable none)
      else if !isWeb url || !isWritable url then .error (.unbuildable (some (.ofList url.text)))
      else
        .ok {
          method := plan.method
          url := url
          isJson := plan.isJson
          authorization := userHeaders ++ tokenHeaders
          body? := plan.body? }

/-- The body that a request carries, as a text on one line. A request without a body carries the
empty text. -/
def Request.bodyText (request : Request) : String :=
  match request.body? with
  | some body => body.compact
  | none => ""

end DashboardTools.Http
