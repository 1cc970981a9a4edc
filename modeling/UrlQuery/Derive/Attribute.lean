import UrlQuery.Derive.Keyword
import UrlQuery.Derive.Rename

/-!
# Attributes

Structs and their fields are annotated by attributes `query(...)` with arguments, which commas part;
all other attributes are passed over. The arguments of an attribute are read before any of them
takes effect, and the attributes are taken one after the other, so that the first fault in this
order is the one that is reported.

On a field, a tag, a layout and a delimiter may each be given once, in whatever attribute. On a
struct there is only the rule that renames all fields, and of several the last counts.

The readers take one lexeme after the other. The structural recursion of each is on the lexemes that
are left.
-/

namespace UrlQuery.Derive

/-- A piece of what an attribute holds. Brackets make one piece with all that stands in them. -/
inductive Lexeme where
  /-- An identifier or a keyword, as it is written. -/
  | name (text : String)
  /-- A text in quotes, by what it says. -/
  | text (value : String)
  /-- Any other literal, with the minus sign in front of it. -/
  | literal
  | comma
  | equals
  /-- Two colons. -/
  | colons
  /-- Any other sign, a lifetime, or brackets. -/
  | other
  deriving DecidableEq, Repr

/-- What stands behind the name of an attribute. -/
inductive Attribute.Body where
  /-- Nothing at all. -/
  | nothing
  /-- Arguments in brackets. -/
  | list (lexemes : List Lexeme)
  /-- An equals sign and a value. -/
  | value
  deriving DecidableEq, Repr

/-- An attribute. -/
structure Attribute where
  name : String := "query"
  body : Attribute.Body
  deriving DecidableEq, Repr

/-! ## Writing -/

/-- An argument of an attribute: what stands between two commas. -/
abbrev Argument := List Lexeme

/-- A name alone. -/
def Argument.word (name : String) : Argument := [.name name]

@[simp] theorem Argument.word_inj {a b : String} : word a = word b ↔ a = b := by
  simp [word]

/-- A text in quotes. -/
def Argument.literal (text : String) : Argument := [.text text]

/-- A name, an equals sign and a text in quotes. -/
def Argument.assignment (name text : String) : Argument := [.name name, .equals, .text text]

/-- The attribute about the encoding that has the arguments. -/
def Attribute.query (arguments : List Argument) : Attribute :=
  { body := .list ([.comma].intercalate arguments) }

/-! ## Errors -/

/-- The annotations that a field can have once. -/
inductive Slot where
  | tag
  | layout
  | del
  deriving DecidableEq, Repr

def Slot.name : Slot → String
  | tag => "tag"
  | layout => "layout"
  | del => "del"

/-- Why nothing can be derived for an item. -/
inductive DeriveError where
  | unknownRename (rule : String)
  | unknownStructArgument
  | unknownFieldArgument (name : String)
  | duplicate (slot : Slot)
  | keyword (name : String)
  | expectedArguments
  | expectedParentheses
  | expectedIdentifier
  | expectedEquals
  | expectedText (atEnd : Bool)
  | expectedComma
  | expectedNested
  | expectedSegment (atEnd : Bool)
  | literalForName
  | tokenForName
  | notAStruct
  | notNamed
  deriving DecidableEq, Repr

/-- How an error begins that is noticed at the end. -/
def endMark (atEnd : Bool) : String := if atEnd then "unexpected end of input, " else ""

/-- The text of an error. -/
def DeriveError.message : DeriveError → String
  | unknownRename rule =>
    "unknown rename_all value: \"" ++ rule ++ "\". Expected one of: " ++
      "lowercase, UPPERCASE, camelCase, PascalCase, " ++
      "snake_case, SCREAMING_SNAKE_CASE, kebab-case, SCREAMING-KEBAB-CASE"
  | unknownStructArgument =>
    "unsupported query struct attribute, expected \x60rename_all\x60"
  | unknownFieldArgument name =>
    "unknown query field attribute \x60" ++ name ++ "\x60. Expected a tag string, " ++
      "\x60layout = \"..\"\x60, \x60del = \"..\"\x60, \x60flatten\x60 or \x60skip\x60"
  | duplicate slot => "duplicate query " ++ slot.name
  | keyword name => "expected identifier, found keyword \x60" ++ name ++ "\x60"
  | expectedArguments => "expected attribute arguments in parentheses: #[query(...)]"
  | expectedParentheses => "expected parentheses: #[query(...)]"
  | expectedIdentifier => "expected identifier"
  | expectedEquals => "expected \x60=\x60"
  | expectedText atEnd => endMark atEnd ++ "expected string literal"
  | expectedComma => "expected \x60,\x60"
  | expectedNested => endMark true ++ "expected nested attribute"
  | expectedSegment atEnd => endMark atEnd ++ "expected ident"
  | literalForName => "unexpected literal in nested attribute, expected ident"
  | tokenForName => "unexpected token in nested attribute, expected ident"
  | notAStruct => "Query derive only supports structs"
  | notNamed => "Query derive only supports structs with named fields"

/-- The first of some words that is a keyword is an error. -/
def refuseKeywords (isRefused : String → Bool) (words : List String) : Except DeriveError Unit :=
  match words.find? isRefused with
  | some word => .error (.keyword word)
  | none => .ok ()

/-- The names of attributes are paths. -/
def checkAttributeNames (attributes : List Attribute) : Except DeriveError Unit :=
  refuseKeywords isPathless (attributes.map (·.name))

/-! ## Lexemes -/

namespace Attribute

/-- The attribute is about the encoding. -/
def isQuery (a : Attribute) : Bool := a.name == "query"

/-- What the brackets of an attribute hold that has some. -/
def lexemes (a : Attribute) : Except DeriveError (List Lexeme) :=
  match a.body with
  | .nothing => .error .expectedArguments
  | .list lexemes => .ok lexemes
  | .value => .error .expectedParentheses

end Attribute

/-- Reads the arguments of all attributes about the encoding, list by list, each after what stands
already. -/
def readLists {α : Type} (read : α → List Lexeme → Except DeriveError α) (start : α) :
    List Attribute → Except DeriveError α
  | [] => .ok start
  | a :: rest => do
    let next ← if a.isQuery then a.lexemes >>= read start else pure start
    readLists read next rest

/-- Why lexemes do not begin with an equals sign and a text. -/
def assignmentFault : List Lexeme → DeriveError
  | .equals :: rest => .expectedText rest.isEmpty
  | _ => .expectedEquals

/-! ## Structs -/

/-- Why nothing is known of a path, given what stands behind its first name. -/
def pathFault : List Lexeme → DeriveError
  | .colons :: .name _ :: rest => pathFault rest
  | .colons :: rest => .expectedSegment rest.isEmpty
  | _ => .unknownStructArgument

/-- Why lexemes are not a path, or one of which nothing is known. -/
def firstNameFault : List Lexeme → DeriveError
  | .name _ :: rest => pathFault rest
  | .text _ :: _ => .literalForName
  | .literal :: _ => .literalForName
  | [] => .expectedNested
  | _ => .tokenForName

/-- Why lexemes do not begin with an argument that sets a rule. -/
def structFault : List Lexeme → DeriveError
  | .name "rename_all" :: .colons :: rest => pathFault (.colons :: rest)
  | .name "rename_all" :: rest => assignmentFault rest
  | .colons :: rest => firstNameFault rest
  | lexemes => firstNameFault lexemes

mutual

/-- The rule that the arguments of a struct set, after what stands already. -/
def readRules (rule : Option RenameRule) : List Lexeme → Except DeriveError (Option RenameRule)
  | [] => .ok rule
  | .name "rename_all" :: .equals :: .text name :: rest =>
    match RenameRule.parse? name with
    | some rule => readRulesBehind rule rest
    | none => .error (.unknownRename name)
  | lexemes => .error (structFault lexemes)

/-- The rule that the arguments behind one set which sets a rule. -/
def readRulesBehind (rule : RenameRule) : List Lexeme → Except DeriveError (Option RenameRule)
  | [] => .ok (some rule)
  | .comma :: rest => readRules (some rule) rest
  | _ => .error .expectedComma

end

/-- The rule by which the attributes of a struct rename its fields. -/
def renameRule? (attributes : List Attribute) : Except DeriveError (Option RenameRule) :=
  readLists readRules none attributes

/-- The rule that the attributes of a struct set, whose names are checked first. -/
def readRenameRule? (attributes : List Attribute) : Except DeriveError (Option RenameRule) := do
  checkAttributeNames attributes
  renameRule? attributes

/-! ## Fields -/

/-- What an argument of a field does. -/
inductive FieldArgument where
  | annotate (slot : Slot) (text : String)
  | flatten
  | skip
  deriving DecidableEq, Repr

namespace FieldArgument

mutual

/-- Reads the arguments of a field. -/
def readAll : List Lexeme → Except DeriveError (List FieldArgument)
  | [] => .ok []
  | .text text :: rest => readBehind (annotate .tag text) rest
  | .name name :: rest => do
    refuseKeywords isKeyword [name]
    match name with
    | "flatten" => readBehind flatten rest
    | "skip" => readBehind skip rest
    | "layout" => readAnnotation .layout rest
    | "del" => readAnnotation .del rest
    | name => .error (.unknownFieldArgument name)
  | _ :: _ => .error .expectedIdentifier

/-- Reads the annotation of a slot behind its name, and the arguments behind it. -/
def readAnnotation (slot : Slot) : List Lexeme → Except DeriveError (List FieldArgument)
  | .equals :: .text text :: rest => readBehind (annotate slot text) rest
  | lexemes => .error (assignmentFault lexemes)

/-- Reads the arguments behind one. -/
def readBehind (argument : FieldArgument) : List Lexeme → Except DeriveError (List FieldArgument)
  | [] => .ok [argument]
  | .comma :: rest => do
    let others ← readAll rest
    pure (argument :: others)
  | _ => .error .expectedComma

end

end FieldArgument

/-- What the attributes of a field say. -/
structure FieldOptions where
  tag : Option String := none
  layout : Option String := none
  del : Option String := none
  flatten : Bool := false
  skip : Bool := false
  deriving DecidableEq, Repr

namespace FieldOptions

/-- The annotation of a slot. -/
def get? (options : FieldOptions) : Slot → Option String
  | .tag => options.tag
  | .layout => options.layout
  | .del => options.del

/-- Sets the annotation of a slot. -/
def set (options : FieldOptions) (slot : Slot) (text : String) : FieldOptions :=
  match slot with
  | .tag => { options with tag := some text }
  | .layout => { options with layout := some text }
  | .del => { options with del := some text }

/-- Lets an argument take effect. -/
def apply (options : FieldOptions) : FieldArgument → Except DeriveError FieldOptions
  | .annotate slot text =>
    if (options.get? slot).isSome then .error (.duplicate slot) else .ok (options.set slot text)
  | .flatten => .ok { options with flatten := true }
  | .skip => .ok { options with skip := true }

/-- Lets a list of arguments take effect, once all of them are read. -/
def addList (options : FieldOptions) (lexemes : List Lexeme) : Except DeriveError FieldOptions := do
  let read ← FieldArgument.readAll lexemes
  read.foldlM apply options

/-- What the attributes of a field say. -/
def ofAttributes (attributes : List Attribute) : Except DeriveError FieldOptions :=
  readLists addList {} attributes

/-- What the attributes of a field say, whose names are checked first. -/
def read (attributes : List Attribute) : Except DeriveError FieldOptions := do
  checkAttributeNames attributes
  ofAttributes attributes

/-- The field is left out, by the word or by its tag. -/
def isSkipped (options : FieldOptions) : Bool :=
  options.skip || options.tag == some "-"

end FieldOptions

end UrlQuery.Derive
