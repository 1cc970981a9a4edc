import UrlQuery.Derive.Item
import UrlQuery.Derive.Token

/-!
# Parameters of generic items

A parameter is declared as a lifetime `'a`, a constant `const N: usize`, or a type `T` with bounds
behind a colon, parted by plus signs, and a default behind an equals sign, which is dropped. Signs
inside of brackets belong to the bound that they stand in. Attributes in front are passed over.
-/

namespace UrlQuery.Derive.Parameter

open Token (scan isBlank)

/-! ## Brackets -/

def opensGroup (token : Token) : Bool := ["(", "[", "\x7b"].contains token.text

def closesGroup (token : Token) : Bool := [")", "]", "\x7d"].contains token.text

/-- How deep a token lies. Inside of a group, which round, square or curly brackets make, the signs
`<` and `>` may be anything; outside they are brackets too. -/
structure Depth where
  group : Nat := 0
  angle : Nat := 0
  deriving DecidableEq, Repr

namespace Depth

/-- The depth behind a token. -/
def behind (depth : Depth) (token : Token) : Depth :=
  if opensGroup token then { depth with group := depth.group + 1 }
  else if closesGroup token then { depth with group := depth.group - 1 }
  else if depth.group ≠ 0 then depth
  else if token = .sign "<" then { depth with angle := depth.angle + 1 }
  else if token = .sign ">" then { depth with angle := depth.angle - 1 }
  else depth

def isOutside (depth : Depth) : Bool := depth.group == 0 && depth.angle == 0

end Depth

/-- Cuts tokens at every sign of a kind that stands outside of brackets. -/
def cutOutside (sign : String) (depth : Depth) (piece : List Token) :
    List Token → List (List Token)
  | [] => [piece.reverse]
  | token :: rest =>
    if depth.isOutside && token == .sign sign then
      piece.reverse :: cutOutside sign depth [] rest
    else cutOutside sign (depth.behind token) (token :: piece) rest

/-- The pieces between such signs. -/
def piecesOutside (sign : String) (tokens : List Token) : List (List Token) :=
  cutOutside sign {} [] tokens

/-- What follows an attribute of which so many groups are open. -/
def afterGroup : (depth : Nat) → List Token → List Token
  | _, [] => []
  | 0, tokens => tokens
  | depth + 1, token :: rest =>
    if opensGroup token then afterGroup (depth + 2) rest
    else if closesGroup token then afterGroup depth rest
    else afterGroup (depth + 1) rest

theorem length_afterGroup (depth : Nat) (tokens : List Token) :
    (afterGroup depth tokens).length ≤ tokens.length := by
  fun_induction afterGroup depth tokens <;> simp <;> omega

/-- Leaves out the attributes in front. -/
def withoutAttributes : List Token → List Token
  | .sign "#" :: .sign "[" :: rest => withoutAttributes (afterGroup 1 rest)
  | tokens => tokens
termination_by tokens => tokens.length
decreasing_by
  have := length_afterGroup 1 rest
  simp only [List.length_cons]
  omega

/-! ## Reading -/

/-- Tokens as text without blanks. -/
def tight (tokens : List Token) : String :=
  String.ofList ((tokens.flatMap (·.text.toList)).filter (!isBlank ·))

/-- The bounds of a type, written as a sum. -/
def bounds (tokens : List Token) : List String :=
  ((piecesOutside "+" tokens).map tight).filter (· ≠ "")

/-- Reads the declaration of a parameter. -/
def parse (text : String) : Parameter :=
  let tokens := withoutAttributes (scan text.toList)
  let declared := (piecesOutside "=" tokens).headD []
  match declared with
  | .lifetime name :: _ => lifetime name
  | .word "const" :: name :: _ => const name.text
  | name :: .sign ":" :: sum => type name.text (bounds sum)
  | _ => type (tight declared) []

end UrlQuery.Derive.Parameter
