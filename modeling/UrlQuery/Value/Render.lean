import UrlQuery.Decimal.Text
import UrlQuery.Text.Utf8
import UrlQuery.Time.Render
import UrlQuery.Value.Basic

/-!
# Scalars as text

Every value has a text: a scalar its own, a sequence those of its elements joined by commas. An
absent value, a map, a struct and a value that encodes itself have the empty one.
-/

namespace UrlQuery.Value

/-- A truth value in words or as a digit. -/
def renderBool (asInt : Bool) (b : Bool) : String :=
  match b, asInt with
  | true, true => "1"
  | false, true => "0"
  | true, false => "true"
  | false, false => "false"

mutual

/-- The text of a value. -/
def render (options : RenderOptions) : Value → String
  | absent _ => ""
  | bool b => renderBool options.intBool b
  | int n => toString n
  | uint n => toString n
  | single x => (Decimal.Binary.ofFloat32 x).text Decimal.plain
  | double x => (Decimal.Binary.ofFloat x).text Decimal.plain
  | char c => c.toString
  | text s => s
  | bytes bs => Utf8.decode bs
  | time t => t.render options.time
  | seq items => String.intercalate "," (renderAll options items)
  | map _ => ""
  | struct _ => ""
  | custom _ _ => ""
  | pointer _ v => v.render options

/-- The texts of all elements. -/
def renderAll (options : RenderOptions) : List Value → List String
  | [] => []
  | v :: rest => v.render options :: renderAll options rest

end

end UrlQuery.Value
