import UrlQuery.Field.Tag

/-!
# Fields

A `Field` declares one field of a struct. Its `FieldRules` say how the field is encoded; they are
read off the declaration and its tag. An annotation of the declaration wins over the option of the
tag that means the same, and an empty one counts as absent.
-/

namespace UrlQuery

/-- How a field of a struct is declared. -/
structure Field where
  name : String
  tag : String := ""
  layout : Option String := none
  delimiter : Option String := none
  /-- The field can be seen from outside its struct. -/
  exported : Bool := true
  /-- The field's own fields count as fields of the struct around it. -/
  embedded : Bool := false
  deriving DecidableEq, Repr

/-- What a scalar needs to know to be written. -/
structure RenderOptions where
  intBool : Bool := false
  time : TimeFormat := .rfc3339
  deriving DecidableEq, Repr

/-- How the elements of a sequence are laid out under its key. -/
inductive SeqLayout where
  /-- One value: the elements with a separator between them. -/
  | joined (separator : String)
  /-- One value for each element under `key[]`. -/
  | brackets
  /-- Each element under its own key: `key0`, `key1`, and so on. -/
  | numbered
  /-- Each element under its own key: `key[0]`, `key[1]`, and so on. -/
  | indexed
  /-- One value for each element under the key itself. -/
  | repeated
  deriving DecidableEq, Repr

/-- The key of the element at an index. -/
def SeqLayout.elementKey (layout : SeqLayout) (key : String) (index : Nat) : String :=
  match layout with
  | brackets => key ++ "[]"
  | numbered => key ++ toString index
  | indexed => key ++ "[" ++ toString index ++ "]"
  | joined _ | repeated => key

/-- How a field is encoded. -/
structure FieldRules where
  skipped : Bool
  explicitName : Option String
  omitEmpty : Bool
  /-- The field opens no scope. A field that is given a name always opens one. -/
  inline : Bool
  layout : Option String
  delimiter : Option String
  render : RenderOptions
  seq : SeqLayout
  deriving DecidableEq, Repr

/-- An empty text counts as none. -/
def nonEmpty? (text : Option String) : Option String :=
  text.filter fun text => !text.isEmpty

namespace TagOptions

/-- The layout that the flags select: a join style, then numbers, then indices. -/
def seqLayout (options : TagOptions) : SeqLayout :=
  match options.joinStyle? with
  | some .brackets => .brackets
  | some .comma => .joined ","
  | some .space => .joined " "
  | some .semicolon => .joined ";"
  | none =>
    if options.numbered then .numbered
    else if options.indexed then .indexed
    else .repeated

end TagOptions

namespace Field

/-- The layout annotation, else the option of that name. -/
def layoutOf (field : Field) (options : TagOptions) : Option String :=
  (nonEmpty? field.layout).or (nonEmpty? (options.get? "layout"))

/-- The delimiter annotation, else the `del` option. -/
def delimiterOf (field : Field) (options : TagOptions) : Option String :=
  (nonEmpty? field.delimiter).or (nonEmpty? (options.get? "del"))

/-- The rules of a field whose tag was read. A delimiter wins over every flag. -/
def rulesOf (field : Field) (tag : Tag) : FieldRules :=
  { skipped := tag.isSkip || !(field.exported || field.embedded)
    explicitName := tag.name?
    omitEmpty := tag.options.omitEmpty
    inline := tag.options.inline && !tag.hasName
    layout := field.layoutOf tag.options
    delimiter := field.delimiterOf tag.options
    render :=
      { intBool := tag.options.int
        time := tag.options.timeFormat (field.layoutOf tag.options) }
    seq :=
      match field.delimiterOf tag.options with
      | some delimiter => .joined delimiter
      | none => tag.options.seqLayout }

/-- The rules of a field. -/
def rules (field : Field) : FieldRules :=
  field.rulesOf (Tag.parse field.tag)

/-- The name that the field is encoded under: that of the tag, else the declared one. -/
def queryName (field : Field) : String :=
  field.rules.explicitName.getD field.name

end Field

end UrlQuery
