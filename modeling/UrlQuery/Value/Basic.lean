import UrlQuery.Decimal.Binary
import UrlQuery.Field.Basic
import UrlQuery.Time.Basic
import UrlQuery.Value.Custom

/-!
# Values

A `Value` is what can be encoded: scalars, sequences, maps, structs, values that encode
themselves, and pointers around any of them. A pointer is looked through everywhere but in one
question: whether a value is empty, in the sense that an option to omit empty fields asks about.
A pointer that is there is not empty, whatever it points at; a reference is as empty as its value.

An integer has any size. One that does not fit into 64 bits is a text of its digits in all that is
asked of it.
-/

namespace UrlQuery

/-- The pointers that a value can stand behind. -/
inductive Pointer where
  /-- An optional value that is present. -/
  | present
  /-- A value on its own. -/
  | boxed
  /-- A value with several owners. -/
  | shared
  /-- A reference to a value that something else owns. -/
  | reference
  deriving DecidableEq, Repr

/-- A value to encode. -/
inductive Value where
  /-- A pointer to nothing, with the encoder that runs in place of the missing value. -/
  | absent (encoder : Option CustomEncoder)
  | bool (b : Bool)
  /-- An integer of a signed type. -/
  | int (n : Int)
  /-- An integer of an unsigned type. -/
  | uint (n : Nat)
  | single (x : Float32)
  | double (x : Float)
  | char (c : Char)
  | text (s : String)
  /-- Bytes that are meant as text. -/
  | bytes (bytes : List UInt8)
  | time (t : Timestamp)
  | seq (items : List Value)
  /-- Entries of key and value in the order of the map. -/
  | map (entries : List (Value × Value))
  /-- Fields in the order of their declaration. -/
  | struct (fields : List (Field × Value))
  /-- A value that encodes itself, and whether it counts as empty. -/
  | custom (encoder : CustomEncoder) (empty : Bool)
  | pointer (kind : Pointer) (value : Value)

/-- The kinds of values, as errors name them. -/
inductive Kind where
  | null | bool | int | uint | float | char | text | bytes | time | seq | map | struct | custom
  deriving DecidableEq, Repr

/-- The name of a kind. -/
def Kind.name : Kind → String
  | null => "null"
  | bool => "bool"
  | int => "int"
  | uint => "uint"
  | float => "float"
  | char => "char"
  | text => "string"
  | bytes => "bytes"
  | time => "time"
  | seq => "seq"
  | map => "map"
  | struct => "struct"
  | custom => "custom"

namespace Value

/-- A signed integer of 64 bits can hold the number. -/
def fitsSigned (n : Int) : Bool := -9223372036854775808 ≤ n && n < 9223372036854775808

/-- An unsigned integer of 64 bits can hold the number. -/
def fitsUnsigned (n : Nat) : Bool := n < UInt64.size

/-- The kind of a value, behind all pointers. -/
def kind : Value → Kind
  | absent _ => .null
  | bool _ => .bool
  | int n => if fitsSigned n then .int else .text
  | uint n => if fitsUnsigned n then .uint else .text
  | single _ | double _ => .float
  | char _ => .char
  | text _ => .text
  | bytes _ => .bytes
  | time _ => .time
  | seq _ => .seq
  | map _ => .map
  | struct _ => .struct
  | custom _ _ => .custom
  | pointer _ v => v.kind

/--
The value behind all pointers is the zero of its kind: absent, false, a zero number, the null
character, the zero time, or text, bytes, a sequence or a map that holds nothing. No struct and
no value that encodes itself is.
-/
def isZero : Value → Bool
  | absent _ => true
  | bool b => !b
  | int n => n == 0
  | uint n => n == 0
  | single x => (Decimal.Binary.ofFloat32 x).isZero
  | double x => (Decimal.Binary.ofFloat x).isZero
  | char c => c == '\x00'
  | text s => s.isEmpty
  | bytes bs => bs.isEmpty
  | time t => t.isZero
  | seq items => items.isEmpty
  | map entries => entries.isEmpty
  | struct _ => false
  | custom _ _ => false
  | pointer _ v => v.isZero

/-- The value is left out where empty values are. -/
def isEmpty : Value → Bool
  | pointer .reference v => v.isEmpty
  | pointer _ _ => false
  | custom _ empty => empty
  | v => v.isZero

/-- The value behind all pointers is a map or a struct. -/
def isContainer : Value → Bool
  | map _ => true
  | struct _ => true
  | pointer _ v => v.isContainer
  | _ => false

/-- The value behind all pointers is a struct. -/
def isStruct : Value → Bool
  | struct _ => true
  | pointer _ v => v.isStruct
  | _ => false

/-- Parameters are a map from their keys to sequences of text. -/
def ofParams (p : Params) : Value :=
  map (p.entries.map fun e => (text e.1, seq (e.2.map text)))

end Value

/-! ## Absent values -/

/-- The type of a value that may be missing, as far as its absence is concerned. -/
inductive Pointee where
  /-- A type whose absence is encoded by nothing of its own. -/
  | plain
  /-- A type that encodes itself, also where its value is missing. -/
  | encoded (encoder : CustomEncoder)
  | optional (inner : Pointee)
  | boxed (inner : Pointee)

/-- The encoder that runs for a missing value. It shows through an optional type, not a box. -/
def Pointee.absentEncoder : Pointee → Option CustomEncoder
  | plain => none
  | encoded encoder => some encoder
  | optional inner => inner.absentEncoder
  | boxed _ => none

/-- A pointer to a missing value of a type. -/
def Value.absentOf (pointee : Pointee) : Value :=
  absent pointee.absentEncoder

end UrlQuery
