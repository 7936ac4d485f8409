import DashboardTools.Url.Authority
import DashboardTools.Url.Path

/-!
# Reading addresses

An address is read leniently: blanks around it and line breaks and tabs inside it do not count, and
a web address may have any number of slashes of either kind before its host. The address of a file
has no host when its path starts with a drive.
-/

namespace DashboardTools.Url

open DashboardTools.Text

/-- Whether a character may stand in a scheme after its first letter. -/
def isSchemeChar (c : Char) : Bool := c.isAlphanum || c == '+' || c == '-' || c == '.'

/-- The scheme in small letters and what follows its colon. -/
def takeScheme? (text : List Char) : Option (List Char × List Char) :=
  let (before, rest?) := splitAt? ':' text
  let scheme := plain before
  if scheme.head?.any Char.isAlpha && scheme.all isSchemeChar then
    rest?.map fun rest => (scheme.map Char.toLower, rest)
  else none

/-- What ends an authority: a slash, and in web addresses a backslash as well. -/
def endsAuthority (web : Bool) (c : Char) : Bool := c == '/' || (web && c == '\\')

/-- The path after an authority; a separator is supplied where none is written. -/
def readPath (isSeparator : Char → Bool) (web : Bool) : List Char → AddressPath
  | [] => .segments (if web then [[]] else [])
  | c :: rest => .segments (readSegments isSeparator (if isSeparator c then rest else c :: rest))

/-- Reads an address of any scheme but that of files, without its query and fragment; `ended` tells
that it has neither. -/
def readPlace? (scheme text : List Char) (ended : Bool) : Option Url :=
  let bare : Url := ⟨scheme, none, none, none, .segments [], none, none⟩
  let web := isWebScheme scheme
  let isSeparator := endsAuthority web
  let withAuthority (text : List Char) : Option Url :=
    let path := text.dropWhile fun c => !isSeparator c
    let followed := !(path.isEmpty && ended)
    (readAuthority? scheme (text.takeWhile fun c => !isSeparator c) followed).map fun authority =>
      { bare with
        user? := authority.user?
        host? := some authority.host
        port? := authority.port?
        path := readPath isSeparator web (authority.rest ++ path) }
  if web then withAuthority (text.dropWhile isSeparator)
  else
    match text with
    | '/' :: '/' :: rest => withAuthority rest
    | '/' :: rest => some { bare with path := .segments (readSegments isSeparator rest) }
    | _ => some { bare with path := .whole (percentEncode [] text) }

/-- The scheme of files, whose addresses are read in a way of their own. -/
def fileScheme : List Char := "file".toList

/-- The address of a file on a host, which may be the empty one. A drive at the front of the path
leaves no host, and empty segments at the front do not count. -/
def filePlace (host path : List Char) : Url :=
  let ordered := OrderedPath.read true (endsAuthority true) path
  let shown := ordered.segments.reverse.dropWhile List.isEmpty
  { scheme := fileScheme
    user? := none
    host? := some (if ordered.hasDrive then [] else host)
    port? := none
    path := .segments (if shown.isEmpty then [[]] else shown)
    query? := none
    fragment? := none }

/-- Reads what follows two separators. What stands where a host would is part of the path when it
names a drive. -/
def readFileHost? (text : List Char) : Option Url :=
  let isSeparator := endsAuthority true
  let name := plain (text.takeWhile fun c => !isSeparator c)
  let path := text.dropWhile fun c => !isSeparator c
  if isDrive name then some (filePlace [] text)
  else if name.isEmpty then some (filePlace [] path)
  else
    (webHost? name).map fun host =>
      if host = "localhost".toList then filePlace [] path else filePlace host (path.drop 1)

/-- Reads the address of a file without its scheme, query and fragment. -/
def readFile? (text : List Char) : Option Url :=
  let isSeparator := endsAuthority true
  match text.dropWhile isBreak with
  | [] => some (filePlace [] [])
  | a :: more =>
    if isSeparator a then
      match more.dropWhile isBreak with
      | [] => some (filePlace [] [])
      | b :: rest => if isSeparator b then readFileHost? rest else some (filePlace [] more)
    else some (filePlace [] text)

/-- Reads an address. Fragment and query are split off first, then the scheme, and what is left is
read by the rules of that scheme. -/
def parse? (text : List Char) : Option Url :=
  let (text, fragment?) := splitAt? '#' (trimBy (fun c => decide (c.toNat ≤ 0x20)) text)
  let (text, query?) := splitAt? '?' text
  match takeScheme? text with
  | none => none
  | some (scheme, place) =>
    let hidden := if isWebScheme scheme || scheme == fileScheme then webQuerySet else querySet
    let url? :=
      if scheme = fileScheme then readFile? place
      else readPlace? scheme (plain place) (query?.isNone && fragment?.isNone)
    url?.map fun url =>
      { url with
        query? := query?.map fun query => percentEncode hidden (plain query)
        fragment? := fragment?.map fun fragment => percentEncode fragmentSet (plain fragment) }

/-- Whether the address names a place on a network, with a host that is not empty. -/
def hasHost (url : Url) : Bool := url.host?.any fun host => !host.isEmpty

end DashboardTools.Url
