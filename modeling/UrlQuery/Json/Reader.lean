import UrlQuery.Json.Token

/-!
# Reading JSON

The tokens of a text are put together one at a time. The arrays and objects that are open stand on
a stack, the innermost first, and there may be at most 127 of them.
-/

namespace UrlQuery.Json

/-- An array or an object that is open, its members with the last first. -/
inductive Frame where
  | array (items : List Json)
  | object (members : List (String × Json))
  /-- An object behind the name of a member. -/
  | member (members : List (String × Json)) (name : String)

/-- What may come next. -/
inductive Expectation where
  | value
  /-- The first item of an array, or its end. -/
  | firstItem
  /-- The first name of an object, or its end. -/
  | firstName
  | name
  | colon
  /-- A comma, or the end of what is open. -/
  | separator
  /-- Nothing: the text is complete. -/
  | nothing (result : Json)
  deriving Inhabited

/-- The reader: what is open and what may come next. -/
structure Reader where
  stack : List Frame := []
  next : Expectation := .value

namespace Reader

/-- The most arrays and objects that may be open at a time. -/
def maxOpen : Nat := 127

/-- A value is complete. -/
def complete (stack : List Frame) (value : Json) : Option Reader :=
  match stack with
  | [] => some ⟨[], .nothing value⟩
  | .array items :: rest => some ⟨.array (value :: items) :: rest, .separator⟩
  | .member members name :: rest => some ⟨.object ((name, value) :: members) :: rest, .separator⟩
  | .object _ :: _ => none

/-- Opens an array or an object. -/
def push (stack : List Frame) (frame : Frame) (next : Expectation) : Option Reader :=
  if stack.length < maxOpen then some ⟨frame :: stack, next⟩ else none

/-- A value, or the beginning of one. -/
def startValue (stack : List Frame) : Token → Option Reader
  | .scalar value => complete stack value
  | .openBracket => push stack (.array []) .firstItem
  | .openBrace => push stack (.object []) .firstName
  | _ => none

/-- The end of the innermost array or object. -/
def close (stack : List Frame) : Token → Option Reader
  | .closeBracket =>
    match stack with
    | .array items :: rest => complete rest (.array items.reverse)
    | _ => none
  | .closeBrace =>
    match stack with
    | .object members :: rest => complete rest (.object members.reverse)
    | _ => none
  | _ => none

/-- The name of a member. -/
def startMember (stack : List Frame) : Token → Option Reader
  | .scalar (.string name) =>
    match stack with
    | .object members :: rest => some ⟨.member members name :: rest, .colon⟩
    | _ => none
  | _ => none

/-- One token. -/
def step (r : Reader) (token : Token) : Option Reader :=
  match r.next with
  | .value => startValue r.stack token
  | .firstItem =>
    match token with
    | .closeBracket => close r.stack token
    | _ => startValue r.stack token
  | .firstName =>
    match token with
    | .closeBrace => close r.stack token
    | _ => startMember r.stack token
  | .name => startMember r.stack token
  | .colon =>
    match token with
    | .colon => some { r with next := .value }
    | _ => none
  | .separator =>
    match token, r.stack with
    | .comma, .array _ :: _ => some { r with next := .value }
    | .comma, .object _ :: _ => some { r with next := .name }
    | _, _ => close r.stack token
  | .nothing _ => none

end Reader

/-- The value of a JSON text. -/
def parse? (text : String) : Option Json := do
  let tokens ← Token.scan? text.toList
  let reader ← tokens.foldlM Reader.step {}
  match reader.next with
  | .nothing value => some value
  | _ => none

end UrlQuery.Json
