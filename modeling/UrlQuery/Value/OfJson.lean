import UrlQuery.Json.Basic
import UrlQuery.Value.Map

/-!
# JSON values as values

Objects are maps in the order of their names, where of several members with one name the last
counts. Arrays are sequences, and numbers keep their kind.
-/

namespace UrlQuery.Value

/-- The value of a JSON number. -/
def ofJsonNumber : JsonNumber → Value
  | .natural n => uint n
  | .negative n => int n
  | .float x => double x

mutual

/-- The value of a JSON value. -/
def ofJson : Json → Value
  | .null => absent none
  | .bool b => bool b
  | .number n => ofJsonNumber n
  | .string s => text s
  | .array items => seq (ofJsonItems items)
  | .object members => textMap (ofJsonMembers members)

/-- The values of the items of an array. -/
def ofJsonItems : List Json → List Value
  | [] => []
  | item :: rest => ofJson item :: ofJsonItems rest

/-- The values of the members of an object. -/
def ofJsonMembers : List (String × Json) → List (String × Value)
  | [] => []
  | (name, value) :: rest => (name, ofJson value) :: ofJsonMembers rest

end

end UrlQuery.Value
