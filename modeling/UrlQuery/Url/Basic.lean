import UrlQuery.Text.Percent
import UrlQuery.Url.Ipv6

/-!
# URLs

A URL in its parts, all of them as they are written: escaped, and in the normal form that the
parser gives them. `Url.toString` puts the parts together.
-/

namespace UrlQuery

/-- The host of a URL. -/
inductive Host where
  /-- A domain name, or any other name where the scheme knows no domains; it may be empty. -/
  | name (text : String)
  | ipv4 (address : Nat)
  | ipv6 (pieces : List Nat)
  deriving DecidableEq, Repr

/-- A host as it is written. -/
def Host.text : Host → String
  | name text => text
  | ipv4 address => Ipv4.text address
  | ipv6 pieces => "[" ++ Ipv6.text pieces ++ "]"

/-- The part of a URL behind two slashes. -/
structure Authority where
  username : String := ""
  password : String := ""
  host : Host
  /-- The port, unless it is the one that the scheme has anyway. -/
  port : Option Nat := none
  deriving DecidableEq, Repr

/-- An authority as it is written. -/
def Authority.text (a : Authority) : String :=
  let password := if a.password.isEmpty then "" else ":" ++ a.password
  let user := a.username ++ password
  (if user.isEmpty then "" else user ++ "@") ++ a.host.text ++
    match a.port with
    | some port => ":" ++ toString port
    | none => ""

/-- The path of a URL. -/
inductive UrlPath where
  /-- Segments, each behind a slash. -/
  | segments (names : List String)
  /-- A text without structure, in a URL that nothing can be relative to. -/
  | plain (text : String)
  deriving DecidableEq, Repr

/-- A path as it is written. -/
def UrlPath.text : UrlPath → String
  | segments names => String.join (names.map ("/" ++ ·))
  | plain text => text

/-- A URL in its parts. -/
structure Url where
  scheme : String
  authority : Option Authority := none
  path : UrlPath
  query : Option String := none
  fragment : Option String := none
  deriving DecidableEq, Repr

namespace Url

/-- The port that a scheme has where none is written. -/
def defaultPort? (scheme : String) : Option Nat :=
  match scheme with
  | "http" | "ws" => some 80
  | "https" | "wss" => some 443
  | "ftp" => some 21
  | _ => none

/-- The scheme is one of those whose URLs always have a host and a path. -/
def isSpecialScheme (scheme : String) : Bool :=
  ["http", "https", "ws", "wss", "ftp", "file"].contains scheme

def isSpecial (url : Url) : Bool := isSpecialScheme url.scheme

/-- A path that begins with two slashes must not be taken for an authority. -/
def pathMark (url : Url) : String :=
  match url.authority, url.path with
  | none, .segments ("" :: _ :: _) => "/."
  | _, _ => ""

/-- A part behind its mark, if it is there. -/
def marked (mark : String) (part : Option String) : String :=
  match part with
  | some text => mark ++ text
  | none => ""

/-- The URL as text. -/
def toString (url : Url) : String :=
  url.scheme ++ ":" ++ marked "//" (url.authority.map (·.text)) ++ url.pathMark ++ url.path.text ++
    marked "?" url.query ++ marked "#" url.fragment

/-! ## Escapes -/

/-- A printable ASCII character that is none of these. -/
def isKept (escaped : List Char) (c : Char) : Bool :=
  0x20 ≤ c.toNat && c.toNat < 0x7F && !escaped.contains c

/-- The characters that a part shows as they are. -/
def keptInOpaque : Char → Bool := isKept []

def keptInFragment : Char → Bool := isKept [' ', '"', '<', '>', '\x60']

def keptInQuery (special : Bool) : Char → Bool :=
  isKept ([' ', '"', '#', '<', '>'] ++ if special then ['\''] else [])

def keptInPath : Char → Bool :=
  isKept [' ', '"', '<', '>', '\x60', '#', '?', '\x7b', '\x7d']

def keptInUser : Char → Bool :=
  isKept [' ', '"', '<', '>', '\x60', '#', '?', '\x7b', '\x7d', '/', ':', ';', '=', '@', '[',
    '\\', ']', '^', '|']

/-- A part with its escapes. -/
def escaped (keep : Char → Bool) (cs : List Char) : String :=
  String.ofList (Percent.encode keep cs)

/-! ## The query -/

/-- Replaces the query. Characters that a query cannot hold are escaped. -/
def setQuery (url : Url) (query : String) : Url :=
  { url with query := some (escaped (keptInQuery url.isSpecial) query.toList) }

end Url

end UrlQuery
