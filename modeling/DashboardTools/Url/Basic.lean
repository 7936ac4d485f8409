import DashboardTools.Decimal.Integer
import DashboardTools.Url.Form

/-!
# Addresses

An address has a scheme, perhaps a host with a port and a user, a path, and perhaps a query and a
fragment. All parts are held as they are written. A path is a sequence of segments, or, where no
hierarchy is meant, a text.
-/

namespace DashboardTools.Url

open DashboardTools.Decimal

/-- The path of an address: segments after slashes, or a text that is not parted. -/
inductive AddressPath where
  | segments (parts : List (List Char))
  | whole (text : List Char)
  deriving DecidableEq

/-- A user's name and password, in percent form. A user may have no password. -/
structure User where
  name : List Char
  password? : Option (List Char)
  deriving DecidableEq

end Url

open Url

/-- An address that was read, in parts that are already in the form in which they are written. -/
structure Url where
  scheme : List Char
  user? : Option User
  host? : Option (List Char)
  port? : Option Nat
  path : AddressPath
  query? : Option (List Char)
  fragment? : Option (List Char)
  deriving DecidableEq

namespace Url

open DashboardTools.Decimal

/-- The schemes of web addresses with their ports. A port that is its scheme's own is not
written. -/
def webPorts : List (List Char × Nat) :=
  [("http".toList, 80), ("https".toList, 443), ("ws".toList, 80), ("wss".toList, 443),
   ("ftp".toList, 21)]

/-- Whether addresses of a scheme have the form of web addresses. -/
def isWebScheme (scheme : List Char) : Bool := webPorts.any (·.1 == scheme)

/-- The port of a scheme, if it is one of those with a port of its own. -/
def defaultPort? (scheme : List Char) : Option Nat :=
  (webPorts.find? (·.1 == scheme)).map (·.2)

/-- A user as it is written in front of a host, with the sign that ends it. -/
def User.text (user : User) : List Char :=
  user.name ++ (match user.password? with
    | some password => ':' :: password
    | none => []) ++ ['@']

/-- A path as it is written, with a slash in front of each segment. -/
def AddressPath.text : AddressPath → List Char
  | .segments parts => parts.flatMap ('/' :: ·)
  | .whole text => text

/-- What stands between the scheme and the path, with the slashes that begin it if there is a
host. -/
def authorityText (url : Url) : List Char :=
  match url.host? with
  | some host =>
    '/' :: '/' :: ((url.user?.map User.text).getD [] ++ host ++ (match url.port? with
      | some port => ':' :: natText port
      | none => []))
  | none =>
    match url.path with
    | .segments ([] :: _ :: _) => ['/', '.']
    | _ => []

/-- The address up to its path, without a query and without a fragment. -/
def pathText (url : Url) : List Char :=
  url.scheme ++ ':' :: (url.authorityText ++ url.path.text)

/-- The query with its mark, which is written for an empty query too. -/
def queryText (url : Url) : List Char :=
  match url.query? with
  | some query => '?' :: query
  | none => []

/-- The address without its fragment, as it is asked for. -/
def target (url : Url) : List Char := url.pathText ++ url.queryText

/-- The address as it is written, in all its parts and with their separators. -/
def text (url : Url) : List Char :=
  url.target ++ (match url.fragment? with
    | some fragment => '#' :: fragment
    | none => [])

/-- The address with query pairs added; without pairs it stays as it is. -/
def withPairs (url : Url) (pairs : List (List Char × List Char)) : Url :=
  if pairs.isEmpty then url else { url with query? := some (addPairs (url.query?.getD []) pairs) }

end Url

end DashboardTools
