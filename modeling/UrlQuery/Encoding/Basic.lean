import UrlQuery.Encoding.Traversal
import UrlQuery.Params.Form

/-!
# Encoding a value

The root of an encoding is a map, a struct or a sequence, or text or bytes that are a query string
already. An absent root writes nothing. No other value has keys to be written under.
-/

namespace UrlQuery.Encoding

/-- The root of an encoding. -/
def visitRoot (config : Config) : Value → Encoding Unit
  | .absent _ => pure ()
  | .text query => modify (·.merge (Params.parse query))
  | .bytes query => modify (·.merge (Params.parseBytes query))
  | .int n =>
    if Value.fitsSigned n then throw (.unsupportedKind .int)
    else modify (·.merge (Params.parse (toString n)))
  | .uint n =>
    if Value.fitsUnsigned n then throw (.unsupportedKind .uint)
    else modify (·.merge (Params.parse (toString n)))
  | .seq items => do
    enter config "" 0
    visitPairs config "" 0 items
  | .map entries => visitInPlace config "" 0 (.map entries)
  | .struct fields => visitInPlace config "" 0 (.struct fields)
  | .pointer _ value => visitRoot config value
  | value => throw (.unsupportedKind value.kind)

end UrlQuery.Encoding

namespace UrlQuery.Value

/--
Encodes a value into parameters that may hold entries already. What was written before an error
stays in the parameters that are returned.
-/
def encodeInto (config : Config) (value : Value) (params : Params) : Except Error Unit × Params :=
  ((Encoding.visitRoot config value).run).run params

/-- Encodes a value. -/
def encode (config : Config) (value : Value) : Except Error Params :=
  match value.encodeInto config Params.empty with
  | (.ok (), params) => .ok params
  | (.error e, _) => .error e

end UrlQuery.Value
