/-!
# JSON values
-/

namespace UrlQuery

/-- A JSON number: an integer of 64 bits where one fits, else a floating-point number. -/
inductive JsonNumber where
  | natural (n : Nat)
  /-- An integer below zero. -/
  | negative (n : Int)
  | float (x : Float)

/-- A JSON value. An object keeps all its members in the order of the text. -/
inductive Json where
  | null
  | bool (b : Bool)
  | number (n : JsonNumber)
  | string (s : String)
  | array (items : List Json)
  | object (members : List (String × Json))

end UrlQuery
