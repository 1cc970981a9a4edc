import UrlQuery.Decimal.Text
import UrlQuery.Params.Basic
import UrlQuery.Text.Quoted
import UrlQuery.Time.Layout
import UrlQuery.Value.Basic

/-!
# Diagnostics

Values, fields and parameters as they are shown to someone who looks for a fault. A scalar shows
its kind and its content, a sequence is in brackets, a map and a struct are in braces, and of a
value that encodes itself nothing is shown.
-/

namespace UrlQuery.Diagnostic

/-- Texts parted by commas. -/
def listed (texts : List String) : String := String.intercalate ", " texts

/-- Texts in brackets. -/
def bracketed (texts : List String) : String := "[" ++ listed texts ++ "]"

/-- Texts in braces. -/
def braced (texts : List String) : String := "\x7b" ++ listed texts ++ "\x7d"

/-- A word with a text in parentheses behind it. -/
def tagged (name content : String) : String := name ++ "(" ++ content ++ ")"

/-- A time as its date, its clock and its offset, all of them exact. -/
def time (t : Timestamp) : String :=
  let c := Time.Clock.ofTimestamp t
  String.ofList (Time.dateText c ++ 'T' :: Time.clockText c ++ Time.fractionText c.fraction ++
    Time.Offset.name c.offset)

mutual

/-- A value for diagnostics. -/
def value : Value → String
  | .absent encoder => tagged "Null" (toString encoder.isSome)
  | .bool b => tagged "Bool" (toString b)
  | .int n =>
    if Value.fitsSigned n then tagged "Int" (toString n)
    else tagged "Str" (Quoted.text (toString n))
  | .uint n =>
    if Value.fitsUnsigned n then tagged "Uint" (toString n)
    else tagged "Str" (Quoted.text (toString n))
  | .single x => tagged "F32" ((Decimal.Binary.ofFloat32 x).text Decimal.diagnostic)
  | .double x => tagged "F64" ((Decimal.Binary.ofFloat x).text Decimal.diagnostic)
  | .char c => tagged "Char" (Quoted.char c)
  | .text s => tagged "Str" (Quoted.text s)
  | .bytes bs => tagged "Bytes" (bracketed (bs.map fun b => toString b.toNat))
  | .time t => tagged "Time" (time t)
  | .seq items => bracketed (values items)
  | .map entries => braced (entryTexts entries)
  | .struct fields => braced (fieldTexts fields)
  | .custom _ _ => "Custom(..)"
  | .pointer _ v => value v

/-- The elements of a sequence. -/
def values : List Value → List String
  | [] => []
  | v :: rest => value v :: values rest

/-- The entries of a map. -/
def entryTexts : List (Value × Value) → List String
  | [] => []
  | (k, v) :: rest => (value k ++ ": " ++ value v) :: entryTexts rest

/-- The fields of a struct under their declared names. -/
def fieldTexts : List (Field × Value) → List String
  | [] => []
  | (field, v) :: rest => (Quoted.text field.name ++ ": " ++ value v) :: fieldTexts rest

end

/-- A name with named parts in braces. -/
def record (name : String) (parts : List (String × String)) : String :=
  name ++ " \x7b " ++ listed (parts.map fun part => part.1 ++ ": " ++ part.2) ++ " \x7d"

/-- An annotation that may be missing. -/
def annotation (text : Option String) : String :=
  match text with
  | some text => tagged "Some" (Quoted.text text)
  | none => "None"

/-- A field with its value. -/
def field (declared : Field) (content : Value) : String :=
  record "QueryField"
    [("meta", record "FieldMeta"
      [("name", Quoted.text declared.name), ("tag", Quoted.text declared.tag),
        ("layout", annotation declared.layout), ("delimiter", annotation declared.delimiter),
        ("exported", toString declared.exported), ("embedded", toString declared.embedded)]),
      ("value", value content)]

/-- Parameters with their keys and values. -/
def params (p : Params) : String :=
  let entry (e : Entry) := Quoted.text e.1 ++ ": " ++ bracketed (e.2.map Quoted.text)
  record "QueryValues" [("entries", braced (p.entries.map entry))]

end UrlQuery.Diagnostic
