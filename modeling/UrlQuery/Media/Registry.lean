import UrlQuery.Assoc
import UrlQuery.Media.Subtype

/-!
# Codec names

A `CodecRegistry` binds subtypes of media types to names of codecs. The standard one knows JSON,
also for the wild card, protocol buffers, XML, YAML and plain text.
-/

namespace UrlQuery

/-- Names of codecs by subtype. -/
structure CodecRegistry where
  bindings : List (String × String)
  sorted : Assoc.Sorted bindings

namespace CodecRegistry

instance : DecidableEq CodecRegistry := fun a b =>
  decidable_of_iff (a.bindings = b.bindings)
    ⟨fun h => by cases a; cases b; cases h; rfl, fun h => h ▸ rfl⟩

/-- No subtype is bound. -/
def empty : CodecRegistry := ⟨[], List.Pairwise.nil⟩

/-- Binds a subtype to a name. -/
def bind (r : CodecRegistry) (subtype name : String) : CodecRegistry :=
  ⟨Assoc.insert subtype name r.bindings, r.sorted.alter⟩

/-- The standard names. -/
def standard : CodecRegistry :=
  [("*", "json"), ("json", "json"), ("x-protobuf", "proto"), ("xml", "xml"), ("x-yaml", "yaml"),
    ("yaml", "yaml"), ("plain", "plain")].foldl (fun r binding => r.bind binding.1 binding.2) empty

/-- Binds the subtype of a media type to a name. The empty name binds nothing. -/
def register (r : CodecRegistry) (mediaType name : String) : CodecRegistry :=
  if name.isEmpty then r else r.bind (Media.subtype mediaType) name

/-- The name that the subtype of a media type is bound to. -/
def codecName? (r : CodecRegistry) (mediaType : String) : Option String :=
  r.bindings.lookup (Media.subtype mediaType)

/-! ## Headers -/

/-- A header field: its name, and its value in bytes. -/
structure HeaderField where
  name : String
  value : List UInt8
  deriving DecidableEq, Repr

/-- The value as text, if it holds visible ASCII characters, spaces and tabs alone. -/
def HeaderField.text? (field : HeaderField) : Option String :=
  let isText (b : UInt8) := b == 0x09 || (0x20 ≤ b.toNat && b.toNat < 0x7F)
  if field.value.all isText then
    some (String.ofList (field.value.map fun b => Char.ofNat b.toNat))
  else none

/-- The codec of the first value of a header that is text and has one. Case does not matter. -/
def codecForHeader? (r : CodecRegistry) (headers : List HeaderField) (name : String) :
    Option String :=
  headers.findSome? fun field =>
    if field.name.toLower = name.toLower then field.text?.bind r.codecName? else none

/-- The codec of the content type of a message. -/
def codecForHeaders? (r : CodecRegistry) (headers : List HeaderField) : Option String :=
  r.codecForHeader? headers "content-type"

end CodecRegistry

end UrlQuery
