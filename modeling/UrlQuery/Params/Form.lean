import UrlQuery.Params.Basic
import UrlQuery.Text.Percent

/-!
# Form encoding

`Params` as `application/x-www-form-urlencoded` text and back. A pair is written as
`key=value`, and pairs are joined by `&`. In a component only letters, digits and `-_.~` stay as
they are, and every other character is escaped byte by byte. In the text so made, `%20` gives way
to `+`.

Reading takes any bytes: question marks in front are dropped, empty pieces between `&` are skipped,
a piece without `=` is a key with the empty value, and escapes that are not UTF-8 are replaced.
The plus signs turn into spaces before the escapes are read, so an escaped plus stays a plus.
-/

namespace UrlQuery.Form

/-! ## Components -/

/-- The characters that a component shows as they are. -/
def isPlain (c : Char) : Bool :=
  c.isAlphanum || c == '-' || c == '_' || c == '.' || c == '~'

/-- Replaces every `%20` by `+`. -/
def spaceToPlus : List Char → List Char
  | '%' :: '2' :: '0' :: rest => '+' :: spaceToPlus rest
  | c :: rest => c :: spaceToPlus rest
  | [] => []

/-- A key or a value as it is written: escaped, then its spaces as `+`. -/
def escape (s : String) : List Char :=
  spaceToPlus (Percent.encode isPlain s.toList)

/-- A plus sign stands for a space. -/
def plusToSpace (b : UInt8) : UInt8 :=
  if b = 0x2B then 0x20 else b

/-- A key or a value as it is read. -/
def unescape (bytes : List UInt8) : String :=
  Utf8.decode (Percent.decode (bytes.map plusToSpace))

/-! ## Pairs -/

/-- A pair as it is written. -/
def encodePair (kv : String × String) : List Char :=
  escape kv.1 ++ '=' :: escape kv.2

/-- A piece between two `&` as it is read, cut at its first `=`. -/
def decodePair (piece : List UInt8) : String × String :=
  (unescape (piece.takeWhile (· != 0x3D)), unescape ((piece.dropWhile (· != 0x3D)).drop 1))

/-- All pairs as they are written. -/
def encodePairs (pairs : List (String × String)) : List Char :=
  ['&'].intercalate (pairs.map encodePair)

/-- All pairs of a query; empty pieces hold none. -/
def decodePairs (bytes : List UInt8) : List (String × String) :=
  ((bytes.splitOn 0x26).filter fun piece => !piece.isEmpty).map decodePair

end UrlQuery.Form

namespace UrlQuery.Params

/-- The query string: keys in order, the values of a key in the order they were added. -/
def encode (p : Params) : String :=
  String.ofList (Form.encodePairs p.toPairs)

/-- The parameters of a query string given as bytes. Question marks in front are ignored. -/
def parseBytes (bytes : List UInt8) : Params :=
  ofPairs (Form.decodePairs (bytes.dropWhile (· == 0x3F)))

/-- The parameters of a query string. -/
def parse (query : String) : Params :=
  parseBytes (Utf8.encode query)

end UrlQuery.Params
