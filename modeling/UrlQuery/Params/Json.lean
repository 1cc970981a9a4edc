import UrlQuery.Json.Reader
import UrlQuery.Json.Text
import UrlQuery.Params.Basic

/-!
# Parameters as JSON

Parameters are an object from keys to arrays of strings, without blanks. In reading, every member
must be such an array; of two members with one name the later one counts.
-/

namespace UrlQuery.Params

/-- The JSON text of parameters. -/
def toJson (p : Params) : String :=
  let member (e : Entry) :=
    Json.stringText e.1 ++ ":[" ++ String.intercalate "," (e.2.map Json.stringText) ++ "]"
  "\x7b" ++ String.intercalate "," (p.entries.map member) ++ "\x7d"

/-- The text of a JSON string. -/
def jsonString? : Json → Option String
  | .string s => some s
  | _ => none

/-- The texts of an array of JSON strings. -/
def jsonStrings? : Json → Option (List String)
  | .array items => items.mapM jsonString?
  | _ => none

/-- The parameters of a JSON value. -/
def ofJsonValue? : Json → Option Params
  | .object members =>
    (members.mapM fun member => (jsonStrings? member.2).map (member.1, ·)).map ofLists
  | _ => none

/-- The parameters of a JSON text. -/
def ofJson? (text : String) : Option Params :=
  (Json.parse? text).bind ofJsonValue?

end UrlQuery.Params
