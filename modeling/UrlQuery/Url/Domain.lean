import UrlQuery.Url.Domain.Direction
import UrlQuery.Url.Domain.Label
import UrlQuery.Url.Error

/-!
# Domain names

A domain name is written in ASCII. Its characters are first replaced by their forms, and the text
is composed; what is between full stops then is a label. No ASCII character that has a meaning in
a URL may be left, and the labels must not mix directions.
-/

namespace UrlQuery.Domain

/-- An ASCII character that no domain name may hold. -/
def isForbidden (c : Char) : Bool :=
  c.toNat ≤ 0x20 || c.toNat == 0x7F ||
    ['%', '#', '/', ':', '<', '>', '?', '@', '[', '\\', ']', '^', '|'].contains c

/-- The texts of the labels of a domain name. -/
def labelTexts? (cs : List Char) : Option (List (List Char)) := do
  let text := Unicode.composed (← cs.mapM form?).flatten
  if text.any isForbidden then none
  else
    let texts ← (text.splitOn '.').mapM ofLabel?
    if areDirected texts then some texts else none

/-- A domain name in ASCII. -/
def toAscii (cs : List Char) : Except UrlError (List Char) :=
  match labelTexts? cs with
  | some texts => .ok (['.'].intercalate (texts.map label))
  | none => .error .invalidDomainName

end UrlQuery.Domain
