import DashboardTools.Url.Basic
import DashboardTools.Url.Host

/-!
# Authorities

Between the two slashes and the path of an address stand a user, a host and a port. The host of a
web address is read by the rules for names and numbers, any other is kept in percent form. The
port is left out where it is the scheme's own.
-/

namespace DashboardTools.Url

open DashboardTools.Decimal
open DashboardTools.Text

/-- A port, `none` for one that is not written or is the scheme's own; fails when there is no such
port. -/
def readPort? (scheme text : List Char) : Option (Option Nat) :=
  if text.isEmpty then some none
  else
    match inBase? 10 0 text with
    | none => none
    | some port =>
      if 65535 < port then none
      else some (if defaultPort? scheme = some port then none else some port)

/-- A user before an at sign, `none` when nothing is written. -/
def readUser (text : List Char) : Option User :=
  let (name, password?) := splitAt? ':' text
  let password? := password?.filter fun password => !password.isEmpty
  if name.isEmpty ∧ password?.isNone then none
  else some ⟨percentEncode userSet name, password?.map (percentEncode userSet)⟩

/-- The text after the last at sign and, if there is one, the text before it. -/
def splitUser (text : List Char) : List Char × Option (List Char) :=
  match text.reverse.dropWhile (· != '@') with
  | [] => (text, none)
  | _ :: before => ((text.reverse.takeWhile (· != '@')).reverse, some before.reverse)

/-- A host and what follows its colon; a colon in brackets belongs to the host. -/
def splitPort : (bracketed : Bool) → List Char → List Char × Option (List Char)
  | _, [] => ([], none)
  | bracketed, c :: rest =>
    if c = ':' ∧ bracketed = false then ([], some rest)
    else
      let inside := if c = '[' then true else if c = ']' then false else bracketed
      let (host, port?) := splitPort inside rest
      (c :: host, port?)

/-- What stands between the two slashes and the path: a user, a host and a port. -/
structure Authority where
  user? : Option User
  host : List Char
  port? : Option Nat
  /-- What follows the digits of the port. -/
  rest : List Char

/-- Reads an authority; `followed` tells whether anything of the address comes after it. An empty
host is refused where one is needed, before a port and after a user, and an at sign that starts the
authority cannot end it too when more follows. -/
def readAuthority? (scheme text : List Char) (followed : Bool) : Option Authority :=
  let web := isWebScheme scheme
  let (place, userText?) := splitUser text
  let user? := userText?.bind readUser
  let (host, portText?) := splitPort false place
  if host.isEmpty then
    let lone := userText? = some [] ∧ followed = true
    if web ∨ portText?.isSome ∨ user?.isSome ∨ lone then none else some ⟨none, [], none, []⟩
  else do
    let host ← if web then webHost? host else otherHost? host
    let portText := portText?.getD []
    let port? ← readPort? scheme (portText.takeWhile (· != '\\'))
    some ⟨user?, host, port?, portText.dropWhile (· != '\\')⟩

end DashboardTools.Url
