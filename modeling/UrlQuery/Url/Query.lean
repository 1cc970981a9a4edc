import UrlQuery.Encoding.Basic
import UrlQuery.Url.Parser

/-!
# Queries of URLs

Parameters are appended to the query that a URL has. Nothing changes where there is nothing to
append, and a value that cannot be encoded leaves the URL as it was.
-/

namespace UrlQuery.Url

/-- The query with an encoded one behind it. An empty query counts as none. -/
def extended (query : Option String) (encoded : String) : String :=
  match query with
  | some before => if before.isEmpty then encoded else before ++ "&" ++ encoded
  | none => encoded

/-- Appends parameters to the query. -/
def appendParams (url : Url) (params : Params) : Url :=
  let encoded := params.encode
  if encoded.isEmpty then url else url.setQuery (extended url.query encoded)

/-- Encodes a value and appends it to the query of a URL that is changed in place. -/
def appendInto (config : Config) (value : Value) (url : Url) : Except Error Unit × Url :=
  match value.encode config with
  | .ok params => (.ok (), url.appendParams params)
  | .error e => (.error e, url)

/-- Encodes a value and appends it to the query. -/
def appendValue (config : Config) (url : Url) (value : Value) : Except Error Url :=
  match url.appendInto config value with
  | (.ok (), url) => .ok url
  | (.error e, _) => .error e

/-- Reads a URL and appends the encoding of a value. -/
def build (config : Config) (base : String) (value : Value) : Except Error Url := do
  let url ← (parse base).mapError .invalidUrl
  url.appendValue config value

end UrlQuery.Url
