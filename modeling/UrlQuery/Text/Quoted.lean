import UrlQuery.Unicode.Mark
import UrlQuery.Unicode.PrintTable

/-!
# Quoted text

Text for diagnostics, in quotes and in visible characters only. The quote in use and the backslash
are escaped, so are the usual control characters, and every other character that has no picture of
its own, or that would alter the one before it, is written as its code point in braces.
-/

namespace UrlQuery.Quoted

/-- A code point in braces, in lower-case hexadecimal. -/
def codePoint (c : Char) : List Char :=
  '\\' :: 'u' :: '\x7b' :: Nat.toDigits 16 c.toNat ++ ['\x7d']

/-- The character has a picture of its own. -/
def hasPicture (c : Char) : Bool :=
  !Unicode.inRuns Unicode.unprintable c && !Unicode.inRuns Unicode.hangulFiller c

/-- The character alters the one before it. -/
def alters (c : Char) : Bool :=
  Unicode.isNonspacingMark c || Unicode.inRuns Unicode.spacingExtender c

/-- The character is shown as it is. -/
def isShown (c : Char) : Bool :=
  if c.toNat < 0x80 then 0x20 ≤ c.toNat && c.toNat < 0x7F
  else hasPicture c && !alters c

/-- One character between quotes. -/
def escapeChar (quote c : Char) : List Char :=
  if c = '\x00' then ['\\', '0']
  else if c = '\t' then ['\\', 't']
  else if c = '\n' then ['\\', 'n']
  else if c = '\r' then ['\\', 'r']
  else if c = quote || c = '\\' then ['\\', c]
  else if isShown c then [c]
  else codePoint c

/-- Characters between quotes. -/
def quoted (quote : Char) (cs : List Char) : String :=
  String.ofList (quote :: cs.flatMap (escapeChar quote) ++ [quote])

/-- Text in double quotes. -/
def text (s : String) : String := quoted '"' s.toList

/-- A character in single quotes. -/
def char (c : Char) : String := quoted '\'' [c]

end UrlQuery.Quoted
