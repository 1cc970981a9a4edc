import UrlQuery.Json.Number

/-!
# JSON tokens

The reader takes JSON text apart one character at a time. Strings are read to their closing quote,
with their escapes; all that is not a string, a mark or white space is a word, which is read as a
literal or a number when it ends.
-/

namespace UrlQuery.Json

/-- A token of JSON text. -/
inductive Token where
  | openBrace
  | closeBrace
  | openBracket
  | closeBracket
  | colon
  | comma
  | scalar (value : Json)

namespace Token

/-- Where the reader stands. Texts under way are kept with the last character first. -/
inductive State where
  | between
  | word (text : List Char)
  | string (text : List Char)
  /-- Behind a backslash. -/
  | escape (text : List Char)
  /-- Inside a code unit: the first of a pair if there was one, the digits missing, the value. -/
  | unit (text : List Char) (lead : Option Nat) (missing value : Nat)
  /-- Behind the first unit of a pair, where a second must follow. -/
  | lead (text : List Char) (first : Nat)
  | leadEscape (text : List Char) (first : Nat)

/-- A character that stands for itself between tokens. -/
def ofMark? : Char → Option Token
  | '\x7b' => some .openBrace
  | '\x7d' => some .closeBrace
  | '[' => some .openBracket
  | ']' => some .closeBracket
  | ':' => some .colon
  | ',' => some .comma
  | _ => none

def isBlank (c : Char) : Bool :=
  c == ' ' || c == '\n' || c == '\t' || c == '\r'

/-- A word as a literal or a number. -/
def ofWord? (text : List Char) : Option Token :=
  match String.ofList text with
  | "null" => some (.scalar .null)
  | "true" => some (.scalar (.bool true))
  | "false" => some (.scalar (.bool false))
  | _ => (Number.parse? text).map fun n => .scalar (.number n)

/-- The character of an escape with one letter. -/
def ofEscape? : Char → Option Char
  | '"' => some '"'
  | '\\' => some '\\'
  | '/' => some '/'
  | 'b' => some '\x08'
  | 'f' => some '\x0c'
  | 'n' => some '\n'
  | 'r' => some '\r'
  | 't' => some '\t'
  | _ => none

def hexValue? (c : Char) : Option Nat :=
  if '0' ≤ c && c ≤ '9' then some (c.toNat - 0x30)
  else if 'a' ≤ c && c ≤ 'f' then some (c.toNat - 0x57)
  else if 'A' ≤ c && c ≤ 'F' then some (c.toNat - 0x37)
  else none

/-- A code unit that is complete. The units of a pair must come in order, one behind the other. -/
def closeUnit? (text : List Char) (lead : Option Nat) (n : Nat) : Option State :=
  match lead with
  | none =>
    if 0xD800 ≤ n && n ≤ 0xDBFF then some (.lead text n)
    else if 0xDC00 ≤ n && n ≤ 0xDFFF then none
    else some (.string (Char.ofNat n :: text))
  | some first =>
    if 0xDC00 ≤ n && n ≤ 0xDFFF then
      some (.string (Char.ofNat (0x10000 + (first - 0xD800) * 0x400 + (n - 0xDC00)) :: text))
    else none

/-- A character between tokens. -/
def stepBetween (c : Char) : Option (List Token × State) :=
  if isBlank c then some ([], .between)
  else if c = '"' then some ([], .string [])
  else
    match ofMark? c with
    | some token => some ([token], .between)
    | none => some ([], .word [c])

/-- The end of a word, at a character that is no part of it. -/
def endWord? (text : List Char) : Option (List Token) :=
  (ofWord? text.reverse).map fun token => [token]

/-- One character from any state: the tokens that it completes, and the state behind it. -/
def step? : State → Char → Option (List Token × State)
  | .between, c => stepBetween c
  | .word text, c =>
    if isBlank c || c = '"' || (ofMark? c).isSome then do
      let done ← endWord? text
      let (tokens, state) ← stepBetween c
      pure (done ++ tokens, state)
    else some ([], .word (c :: text))
  | .string text, c =>
    if c = '"' then some ([.scalar (.string (String.ofList text.reverse))], .between)
    else if c = '\\' then some ([], .escape text)
    else if c.toNat < 0x20 then none
    else some ([], .string (c :: text))
  | .escape text, c =>
    if c = 'u' then some ([], .unit text none 4 0)
    else (ofEscape? c).map fun c => ([], .string (c :: text))
  | .unit text lead missing value, c => do
    let n := value * 16 + (← hexValue? c)
    if missing ≤ 1 then (closeUnit? text lead n).map fun state => ([], state)
    else pure ([], .unit text lead (missing - 1) n)
  | .lead text first, c => if c = '\\' then some ([], .leadEscape text first) else none
  | .leadEscape text first, c => if c = 'u' then some ([], .unit text (some first) 4 0) else none

/-- The tokens of a text from any state. -/
def scanFrom? : State → List Char → Option (List Token)
  | .between, [] => some []
  | .word text, [] => endWord? text
  | _, [] => none
  | state, c :: rest => do
    let (tokens, state) ← step? state c
    let more ← scanFrom? state rest
    pure (tokens ++ more)

/-- The tokens of a text. -/
def scan? (cs : List Char) : Option (List Token) := scanFrom? .between cs

end Token

end UrlQuery.Json
