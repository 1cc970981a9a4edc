import UrlQuery.Url.Domain
import UrlQuery.Url.Path

/-!
# Reading URLs

A text is read as a URL on its own, with no other URL to be relative to. White space and control
characters around it are dropped, and so are tabs and line ends anywhere, but for one place in the
path of a file. A scheme comes first; what follows depends on it.

* The **special** schemes have a host and a path always. Any number of slashes or backslashes may
  stand before the host.
* A **file** has a path, and a host only behind two slashes. A drive letter may begin the path;
  there is no host then.
* In **other** schemes two slashes begin a host, one slash a path, and anything else is a path
  without structure.

The parts are cut off from the left: path up to `?` or `#`, query up to `#`.
-/

namespace UrlQuery.Url

/-! ## Pieces of the text -/

/-- Cuts a text before the first character with a property. -/
def cutBefore (stops : Char → Bool) (cs : List Char) : List Char × List Char :=
  (cs.takeWhile fun c => !stops c, cs.dropWhile fun c => !stops c)

/-- The end of a path. -/
def endsPath (c : Char) : Bool := c == '?' || c == '#'

/-- The end of an authority. -/
def endsAuthority (special : Bool) (c : Char) : Bool :=
  isSlash special c || endsPath c

/-- The text without the blanks and controls around it. -/
def trimmed (text : List Char) : List Char :=
  let isOuter (c : Char) := c.toNat ≤ 0x20
  ((text.dropWhile isOuter).reverse.dropWhile isOuter).reverse

/-- The scheme in lower case, and what follows its colon. -/
def scheme? (cs : List Char) : Option (String × List Char) :=
  let (name, rest) := cutBefore (· == ':') cs
  let isPart (c : Char) := c.isAlphanum || c == '+' || c == '-' || c == '.'
  if (name.head?.any Char.isAlpha) && name.all isPart && !rest.isEmpty then
    some (String.ofList (name.map Char.toLower), rest.drop 1)
  else none

/-! ## Hosts -/

/-- An address in brackets. -/
def bracketed? (cs : List Char) : Option (Except UrlError Host) :=
  if cs.head? == some '[' then
    if cs.getLast? == some ']' then some ((Ipv6.parse (cs.drop 1).dropLast).map .ipv6)
    else some (.error .invalidIpv6)
  else none

/-- A host of a special scheme: an address or a domain name. -/
def domainHost (cs : List Char) : Except UrlError Host :=
  match bracketed? cs with
  | some host => host
  | none => do
    let bytes := Percent.decode (Utf8.encode (String.ofList cs))
    let name ← Domain.toAscii (Utf8.decode bytes).toList
    if name.isEmpty then throw .emptyHost
    else if Ipv4.endsInNumber name then return .ipv4 (← Ipv4.parse name)
    else return .name (String.ofList name)

/-- A character that the host of no scheme may hold. -/
def isForbiddenInHost (c : Char) : Bool :=
  ['\x00', '\t', '\n', '\r', ' ', '#', '/', ':', '<', '>', '?', '@', '[', '\\', ']', '^',
    '|'].contains c

/-- A host of a scheme that knows no domains: an address or any name. -/
def otherHost (cs : List Char) : Except UrlError Host :=
  match bracketed? cs with
  | some host => host
  | none =>
    if cs.any isForbiddenInHost then .error .invalidDomainCharacter
    else .ok (.name (escaped keptInOpaque cs))

/-- Cuts a host off. A colon ends it unless it stands in brackets. -/
def cutHost (special : Bool) : (inBrackets : Bool) → List Char → List Char × List Char
  | _, [] => ([], [])
  | inBrackets, c :: rest =>
    if endsAuthority special c || (c == ':' && !inBrackets) then ([], c :: rest)
    else
      let inside := if c = '[' then true else if c = ']' then false else inBrackets
      let (host, after) := cutHost special inside rest
      (c :: host, after)

/-! ## Authorities -/

/-- A port, if digits are written, and what follows. -/
def readPort (cs : List Char) : Except UrlError (Option Nat × List Char) :=
  let digits := cs.takeWhile Char.isDigit
  let rest := cs.dropWhile Char.isDigit
  let n := digits.foldl (fun n c => n * 10 + (c.toNat - 0x30)) 0
  if 65535 < n then .error .invalidPort
  else if rest.head?.any fun c => !endsAuthority true c then .error .invalidPort
  else .ok (if digits.isEmpty then none else some n, rest)

/-- The user's part of an authority: a name, and behind a colon a password. -/
def readUser (cs : List Char) : String × String :=
  let (name, password) := cutBefore (· == ':') cs
  (escaped keptInUser name, escaped keptInUser (password.drop 1))

/-- The part before the last `@` of an authority if there is one, and what follows. -/
def cutUser (special : Bool) (cs : List Char) : Option (List Char) × List Char :=
  let (authority, after) := cutBefore (endsAuthority special) cs
  if authority.contains '@' then
    let host := (authority.reverse.takeWhile (· != '@')).reverse
    (some (authority.take (authority.length - host.length - 1)), host ++ after)
  else (none, cs)

/-- The authority behind two slashes, and what follows. -/
def readAuthority (scheme : String) (cs : List Char) :
    Except UrlError (Authority × List Char) := do
  let special := isSpecialScheme scheme
  let (userText, rest) := cutUser special cs
  if userText == some [] && rest.head?.any (endsAuthority special) then throw .emptyHost
  let (username, password) := readUser (userText.getD [])
  let (hostText, rest) := cutHost special false rest
  let host ← if special && hostText.isEmpty then throw .emptyHost
    else if special then domainHost hostText
    else otherHost hostText
  let isPort := rest.head? == some ':'
  if hostText.isEmpty && (isPort || !username.isEmpty || !password.isEmpty) then throw .emptyHost
  let (number, rest) ← if isPort then readPort (rest.drop 1) else pure (none, rest)
  let shown := if number == defaultPort? scheme then none else number
  return ({ username, password, host, port := shown }, rest)

/-! ## URLs -/

/-- The query and the fragment, whose text begins with `?` or `#` or is empty. -/
def withTail (url : Url) (cs : List Char) : Url :=
  let (query, fragment) := cutBefore (· == '#') cs
  { url with
    query :=
      if query.isEmpty then none else some (escaped (keptInQuery url.isSpecial) (query.drop 1))
    fragment :=
      if fragment.isEmpty then none else some (escaped keptInFragment (fragment.drop 1)) }

/-- A URL with an authority, from behind its slashes. -/
def ofAuthority (scheme : String) (cs : List Char) : Except UrlError Url := do
  let (authority, rest) ← readAuthority scheme cs
  let (pathText, tail) := cutBefore endsPath rest
  let path := if isSpecialScheme scheme then specialPath pathText else otherPath pathText
  return withTail { scheme, authority := some authority, path } tail

/-- A URL of a file under a host, from behind the first slash of its path. -/
def ofFileUnder (host : Host) (cs : List Char) : Url :=
  let (pathText, tail) := cutBefore endsPath cs
  let trail := fileTrail pathText
  let host := if trail.hasDrive then .name "" else host
  withTail { scheme := "file", authority := some { host }, path := .segments trail.names }
    (withoutBreaks tail)

/-- What follows a slash that comes first but for breaks. -/
def afterSlash? (cs : List Char) : Option (List Char) :=
  match cs.dropWhile isBreak with
  | [] => none
  | c :: rest => if isSlash true c then some rest else none

/-- A URL of a file, from behind its two slashes. -/
def ofFileAuthority (cs : List Char) : Except UrlError Url := do
  let (hostText, rest) := cutBefore (endsAuthority true) cs
  let hostText := withoutBreaks hostText
  if isDriveLetter (String.ofList hostText) then return ofFileUnder (.name "") cs
  else if hostText.isEmpty then return ofFileUnder (.name "") rest
  else
    let host ← domainHost hostText
    if host = .name "localhost" then return ofFileUnder (.name "") rest
    else return ofFileUnder host ((afterSlash? rest).getD rest)

/-- A URL of a file, from behind its scheme. -/
def ofFile (cs : List Char) : Except UrlError Url :=
  match afterSlash? cs with
  | none => .ok (ofFileUnder (.name "") cs)
  | some rest =>
    match afterSlash? rest with
    | none => .ok (ofFileUnder (.name "") rest)
    | some rest => ofFileAuthority rest

/-- A URL without an authority, from behind its scheme. -/
def ofPath (scheme : String) (cs : List Char) : Url :=
  let (pathText, tail) := cutBefore endsPath cs
  let path :=
    if pathText.head? == some '/' then .segments (segments false (pathText.drop 1))
    else .plain (escaped keptInOpaque pathText)
  withTail { scheme, path } tail

/-- The URL that a text is. Tabs and line ends count in the path of a file only. -/
def parse (text : String) : Except UrlError Url :=
  let text := trimmed text.toList
  match scheme? (withoutBreaks text) with
  | none => .error .relativeWithoutBase
  | some (scheme, rest) =>
    if scheme = "file" then ofFile ((text.dropWhile (· != ':')).drop 1)
    else if isSpecialScheme scheme then ofAuthority scheme (rest.dropWhile (isSlash true))
    else
      match rest with
      | '/' :: '/' :: rest => ofAuthority scheme rest
      | _ => .ok (ofPath scheme rest)

end UrlQuery.Url
