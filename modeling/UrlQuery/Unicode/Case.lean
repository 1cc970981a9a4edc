import UrlQuery.Unicode.CaseTable

/-!
# Letter case

The full case maps of Unicode: one character may become several. In lower-casing a text, a capital
sigma at the end of a word becomes the final form of the letter.
-/

namespace UrlQuery.Unicode

/-- The character is a capital. -/
def isUpper (c : Char) : Bool :=
  if c.toNat < 0x80 then c.isUpper else inRuns uppercase c

/-- The lower-case form of a character. -/
def lower (c : Char) : List Char :=
  if c.toNat < 0x80 then [c.toLower]
  else if c = 'İ' then ['i', '\u0307']
  else [(shifted? toLower c).getD c]

/-- The upper-case form of a character. -/
def upper (c : Char) : List Char :=
  if c.toNat < 0x80 then [c.toUpper]
  else
    match toUpperMany.lookup c.toNat with
    | some codes => codes.map Char.ofNat
    | none => [(shifted? toUpper c).getD c]

/-- The character has case. -/
def isCased (c : Char) : Bool :=
  if c.toNat < 0x80 then c.isAlpha else inRuns cased c

/-- The character is passed over when the end of a word is looked for. -/
def isCaseIgnorable (c : Char) : Bool :=
  if c.toNat < 0x80 then c == '\'' || c == '.' || c == ':' || c == '^' || c.toNat == 0x60
  else inRuns caseIgnorable c

/-- The next character that is not passed over has case. -/
def meetsCased (cs : List Char) : Bool :=
  (cs.find? fun c => !isCaseIgnorable c).any isCased

/-- Lower-cases a text. What has been read of it stands in `before`, the last character first. -/
def lowerFrom (before : List Char) : List Char → List Char
  | [] => []
  | c :: rest =>
    let form :=
      if c = 'Σ' then [if meetsCased before && !meetsCased rest then 'ς' else 'σ'] else lower c
    form ++ lowerFrom (c :: before) rest

/-- The lower-case form of a text. -/
def lowercase (cs : List Char) : List Char := lowerFrom [] cs

/-- The upper-case form of a text. -/
def uppercased (cs : List Char) : List Char := cs.flatMap upper

end UrlQuery.Unicode
