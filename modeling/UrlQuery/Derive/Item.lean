import UrlQuery.Derive.Attribute
import UrlQuery.Field.Basic
import UrlQuery.Value.Basic

/-!
# Deriving an encoding

The declaration of a struct gives the table of its fields: every field that takes part in the
encoding, in order, under its name as the struct renames it. A field takes part if it is not
skipped, and can be seen from outside or is flattened.
-/

namespace UrlQuery.Derive

/-- What an item is. -/
inductive Shape where
  | named
  | tuple
  | unit
  | enumeration
  | union
  deriving DecidableEq, Repr

/-- A field as it is declared. Its identifier may be raw, with `r#` in front. -/
structure FieldItem where
  identifier : String
  isPrivate : Bool := false
  attributes : List Attribute := []
  deriving DecidableEq, Repr

/-- A parameter of a generic item. -/
inductive Parameter where
  | lifetime (name : String)
  | type (name : String) (bounds : List String)
  | const (name : String)
  deriving DecidableEq, Repr

/-- An item to derive for. -/
structure Item where
  name : String := "S"
  shape : Shape := .named
  attributes : List Attribute := []
  parameters : List Parameter := []
  fields : List FieldItem := []
  deriving DecidableEq, Repr

namespace FieldItem

/-- The identifier without the mark of a raw one. -/
def plainName (item : FieldItem) : String :=
  match item.identifier.toList with
  | 'r' :: '#' :: name => String.ofList name
  | _ => item.identifier

/-- The field that an item declares, under its name as the rule gives it. -/
def field (item : FieldItem) (rule : Option RenameRule) (options : FieldOptions) : Field :=
  { name := match rule with
      | some rule => rule.apply item.plainName
      | none => item.plainName
    tag := options.tag.getD ""
    layout := options.layout
    delimiter := options.del
    exported := !item.isPrivate
    embedded := options.flatten }

/-- The field takes part in the encoding. -/
def takesPart (item : FieldItem) (options : FieldOptions) : Bool :=
  !options.isSkipped && (!item.isPrivate || options.flatten)

end FieldItem

/-- A field of a derived table: the identifier of the member, and its description. -/
abbrev Member := String × Field

/-- The fields of items that take part, in order. -/
def members (rule : Option RenameRule) : List FieldItem → Except DeriveError (List Member)
  | [] => .ok []
  | item :: rest => do
    let options ← FieldOptions.ofAttributes item.attributes
    let others ← members rule rest
    pure (if item.takesPart options then (item.identifier, item.field rule options) :: others
      else others)

/-- A field can be read. The word `pub` makes a private field a public one without a name, and an
underscore is a name here. -/
def FieldItem.check (item : FieldItem) : Except DeriveError Unit := do
  checkAttributeNames item.attributes
  if item.isPrivate && item.identifier == "pub" then throw .expectedIdentifier
  else if item.identifier == "_" then pure ()
  else refuseKeywords isKeyword [item.identifier]

/-- An item can be read. The fields have names in some shapes only. -/
def Item.check (item : Item) : Except DeriveError Unit := do
  checkAttributeNames item.attributes
  refuseKeywords isKeyword [item.name]
  match item.shape with
  | .named => item.fields.forM FieldItem.check
  | .union => item.fields.forM FieldItem.check
  | _ => pure ()

/-- The table of the fields of an item. The whole item is read before its attributes count. -/
def Item.members (item : Item) : Except DeriveError (List Member) := do
  item.check
  let rule ← renameRule? item.attributes
  match item.shape with
  | .named => Derive.members rule item.fields
  | .tuple => throw .notNamed
  | .unit => throw .notNamed
  | .enumeration => throw .notAStruct
  | .union => throw .notAStruct

/-! ## Generic items -/

/-- The bound that makes a type one whose values can be encoded. -/
def encodableBound : String := "::quire::ToQuery"

/-- A parameter as the derived code declares it: types are encodable. -/
def Parameter.bounded : Parameter → Parameter
  | type name bounds => type name (bounds ++ [encodableBound])
  | parameter => parameter

def Parameter.isLifetime : Parameter → Bool
  | lifetime _ => true
  | _ => false

/-- The parameters of the derived code, lifetimes first. -/
def Item.boundedParameters (item : Item) : List Parameter :=
  item.parameters.filter (·.isLifetime) ++
    (item.parameters.filter (!·.isLifetime)).map Parameter.bounded

/-! ## Values -/

/-- The value of a derived struct, given the values of its members. -/
def structValue (members : List Member) (valueOf : String → Value) : Value :=
  .struct (members.map fun member => (member.2, valueOf member.1))

end UrlQuery.Derive
