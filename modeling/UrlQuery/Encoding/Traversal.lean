import UrlQuery.Encoding.Config
import UrlQuery.Error
import UrlQuery.Value.Render

/-!
# The traversal

A value is encoded by walking through it. Every map, struct and sequence that is visited lies at a
level, the root at level 0, and one below the limit ends the walk. What was written before an
error stays written.

* A **struct** writes its fields in order. A field that is embedded, bears no name in its tag and
  holds a struct is promoted: that struct is visited in place of a field, in the scope and at the
  level of the struct around it, after all fields that are not promoted.
* A **map** writes its entries in order and passes over empty values. The entries are rendered and
  laid out as the field that holds the map asks for, to any depth.
* A **sequence** in a field or a map entry is laid out under its key by a `SeqLayout`. At the root,
  and inside another sequence, it is read in pairs: a map or struct is visited in the scope at
  hand, and any other element is a key for the element after it. Such keys stand alone, without
  the scope.

A value that encodes itself is handed the key it would be written under, wherever it is met by one
of these rules; where a value is only rendered it is the empty text.
-/

namespace UrlQuery

/-- A step of an encoding: it writes parameters and may fail. -/
abbrev Encoding := ExceptT Error (StateM Params)

namespace Encoding

/-- Appends a value under a key. -/
def write (key value : String) : Encoding Unit :=
  modify (·.add key value)

/-- Hands a key to the encoder of a value. -/
def runCustom (encoder : CustomEncoder) (key : String) : Encoding Unit := do
  let (params, failure) := encoder.run key (← get)
  set params
  match failure with
  | none => pure ()
  | some source => throw (.customEncoder key source)

/-- Enters a scope, if its level is within the limit. -/
def enter (config : Config) (scope : String) (depth : Nat) : Encoding Unit :=
  if config.maxDepth < depth then throw (.depthLimit scope config.maxDepth) else pure ()

/-- The elements of a sequence as one value. -/
def joinElements (options : RenderOptions) (separator : String) (items : List Value) : String :=
  String.intercalate separator (Value.renderAll options items)

/-- How the values inside of a field or a map entry are written. -/
structure Style where
  options : RenderOptions := {}
  layout : SeqLayout := .repeated
  deriving DecidableEq, Repr

end Encoding

/-- The field's value is visited in place of the field. -/
def Field.promotes (field : Field) (value : Value) : Bool :=
  field.embedded && field.rules.explicitName.isNone && value.isStruct

/-- The style that a field asks for. -/
def FieldRules.style (rules : FieldRules) : Encoding.Style :=
  { options := rules.render, layout := rules.seq }

namespace Encoding

/-- Where a value stands, which decides how a sequence there is read. -/
inductive Place where
  /-- The value of a field or of a map entry: a sequence is laid out under its key. -/
  | slot
  /-- An element of a sequence that is laid out: a sequence is read in pairs. -/
  | element
  deriving DecidableEq, Repr

mutual

/-- The fields of a struct that are not promoted. -/
def visitFields (config : Config) (scope : String) (depth : Nat) :
    List (Field × Value) → Encoding Unit
  | [] => pure ()
  | (field, value) :: rest => do
    let rules := field.rules
    if rules.skipped || field.promotes value || (rules.omitEmpty && value.isEmpty) then pure ()
    else
      let key := config.scopeJoin.join scope field.queryName
      visitValue config rules.style .slot (if rules.inline then scope else key) key depth value
    visitFields config scope depth rest

/-- The structs that promoted fields hold. -/
def visitPromoted (config : Config) (scope : String) (depth : Nat) :
    List (Field × Value) → Encoding Unit
  | [] => pure ()
  | (field, value) :: rest => do
    if !field.rules.skipped && field.promotes value then visitInPlace config scope depth value
    else pure ()
    visitPromoted config scope depth rest

/-- The entries of a map that are not empty. -/
def visitEntries (config : Config) (style : Style) (scope : String) (depth : Nat) :
    List (Value × Value) → Encoding Unit
  | [] => pure ()
  | (name, value) :: rest => do
    if value.isEmpty then pure ()
    else
      let key := config.scopeJoin.join scope (name.render {})
      visitValue config style .slot key key depth value
    visitEntries config style scope depth rest

/-- The elements of a sequence, each under a key of its own; the first is at `index`. -/
def visitElements (config : Config) (style : Style) (key : String) (depth index : Nat) :
    List Value → Encoding Unit
  | [] => pure ()
  | value :: rest => do
    let elementKey := style.layout.elementKey key index
    visitValue config style .element elementKey elementKey depth value
    visitElements config style key depth (index + 1) rest

/-- A sequence read in pairs. A key that no element follows is dropped. -/
def visitPairs (config : Config) (scope : String) (depth : Nat) : List Value → Encoding Unit
  | [] => pure ()
  | first :: rest => do
    if first.isContainer then
      visitInPlace config scope depth first
      visitPairs config scope depth rest
    else
      match rest with
      | [] => pure ()
      | second :: rest => do
        write (first.render {}) (second.render {})
        visitPairs config scope depth rest

/-- A map or a struct that takes over the scope and the level of what holds it. -/
def visitInPlace (config : Config) (scope : String) (depth : Nat) : Value → Encoding Unit
  | .map entries => do
    enter config scope depth
    visitEntries config {} scope depth entries
  | .struct fields => do
    enter config scope depth
    visitFields config scope depth fields
    visitPromoted config scope depth fields
  | .pointer _ value => visitInPlace config scope depth value
  | _ => pure ()

/--
A value under its key. A map or a struct opens `scope`, which is the key unless the value is
inlined, one level below `depth`.
-/
def visitValue (config : Config) (style : Style) (place : Place) (scope key : String)
    (depth : Nat) : Value → Encoding Unit
  | .custom encoder _ => runCustom encoder key
  | .absent (some encoder) => runCustom encoder key
  | .seq items =>
    match place with
    | .slot =>
      match style.layout with
      | .joined separator =>
        if items.isEmpty then pure () else write key (joinElements style.options separator items)
      | _ => visitElements config style key depth 0 items
    | .element => do
      enter config key (depth + 1)
      visitPairs config key (depth + 1) items
  | .map entries => do
    enter config scope (depth + 1)
    visitEntries config style scope (depth + 1) entries
  | .struct fields => do
    enter config scope (depth + 1)
    visitFields config scope (depth + 1) fields
    visitPromoted config scope (depth + 1) fields
  | .pointer _ value => visitValue config style place scope key depth value
  | value => write key (value.render style.options)

end

end Encoding

end UrlQuery
