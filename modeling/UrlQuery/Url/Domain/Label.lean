import UrlQuery.Unicode.Composition
import UrlQuery.Unicode.Joining
import UrlQuery.Url.Domain.Form
import UrlQuery.Url.Punycode

/-!
# Labels of domain names

A label is the part of a name between full stops. One with characters above ASCII is written in
Punycode, with `xn--` in front of it; such a label stands for the text that it is written for. The
text has to be plain and composed, it does not begin with a mark, and an invisible joiner stands in
it only where it shows: after a silenced consonant, or, the one that parts, between letters that
would be joined.
-/

namespace UrlQuery.Domain

/-! ## Texts -/

/-- A joiner is a character without a width that joins its neighbours or parts them. -/
def isJoiner (c : Char) : Bool := c == '\u200c' || c == '\u200d'

/-- A joiner shows between two texts, the first of them reversed. -/
def joinerShows (before : List Char) (joiner : Char) (after : List Char) : Bool :=
  let meets (joins : Char → Bool) (cs : List Char) :=
    (cs.dropWhile Unicode.isTransparent).head?.any joins
  before.head?.any Unicode.isVirama ||
    (joiner == '\u200c' && meets Unicode.joinsNext before && meets Unicode.joinsPrevious after)

/-- All joiners of a text show. What has been read of it stands in `before`, reversed. -/
def joinersShow (before : List Char) : List Char → Bool
  | [] => true
  | c :: rest => (!isJoiner c || joinerShows before c rest) && joinersShow (c :: before) rest

def isAscii (cs : List Char) : Bool := cs.all (·.toNat < 0x80)

/-- The longest text above ASCII that is taken for a label. -/
def maxTextLength : Nat := 1000

/-- The longest Punycode that is read. -/
def maxCodeLength : Nat := 2000

/-- A text that a label may stand for. -/
def isLabel (text : List Char) : Bool :=
  !text.head?.any Unicode.isMark && joinersShow [] text &&
    (isAscii text || text.length ≤ maxTextLength)

/-! ## Reading and writing -/

/-- The text of a Punycode, which is written for text above ASCII only. -/
def ofCode? (code : List Char) : Option (List Char) :=
  if maxCodeLength < code.length then none
  else
    match Punycode.decode? code with
    | some text =>
      let isNormal := text.all isPlain && Unicode.composed text == text
      if !isAscii text && isNormal && isLabel text then some text else none
    | none => none

/-- The text that a label stands for. -/
def ofLabel? (label : List Char) : Option (List Char) :=
  match label with
  | 'x' :: 'n' :: '-' :: '-' :: code => ofCode? code
  | _ => if isLabel label then some label else none

/-- The label of a text. -/
def label (text : List Char) : List Char :=
  if isAscii text then text else 'x' :: 'n' :: '-' :: '-' :: Punycode.encode text

end UrlQuery.Domain
