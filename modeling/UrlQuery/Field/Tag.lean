/-!
# Field tags

A tag describes how a field is encoded: a name, then options, parted by commas. An empty name
leaves the declared one in force. An option is a flag, or a key and a value parted by the first
colon; empty options are passed over. The tag `-` alone takes the field out of the encoding, while
`-,` names it `-`.
-/

namespace UrlQuery

/-- How a sequence is put together when a flag of the tag says so. -/
inductive JoinStyle where
  | comma
  | space
  | semicolon
  | brackets
  deriving DecidableEq, Repr

namespace JoinStyle

/-- The style that a flag selects. -/
def ofFlag? : String → Option JoinStyle
  | "comma" => some comma
  | "space" => some space
  | "semicolon" => some semicolon
  | "brackets" => some brackets
  | _ => none

/-- What stands between the elements; brackets join nothing. -/
def separator? : JoinStyle → Option String
  | comma => some ","
  | space => some " "
  | semicolon => some ";"
  | brackets => none

end JoinStyle

/-- How a time is written. -/
inductive TimeFormat where
  | unix
  | unixMilli
  | unixNano
  | layout (text : String)
  | rfc3339
  deriving DecidableEq, Repr

/-- The options of a tag in the order they are declared. A flag has the empty value. -/
abbrev TagOptions := List (String × String)

namespace TagOptions

/-- The option is there, as a flag or with a value. -/
def contains (options : TagOptions) (key : String) : Bool :=
  options.any (·.1 == key)

/-- The value of the first option of this key. -/
def get? (options : TagOptions) (key : String) : Option String :=
  options.lookup key

/-- The first join style that is declared. -/
def joinStyle? (options : TagOptions) : Option JoinStyle :=
  options.findSome? fun option => JoinStyle.ofFlag? option.1

/-- The field is left out when its value is empty. -/
def omitEmpty (options : TagOptions) : Bool := options.contains "omitempty"

/-- The field writes into the scope around it. -/
def inline (options : TagOptions) : Bool := options.contains "inline"

/-- Elements are told apart by a number behind the key. -/
def numbered (options : TagOptions) : Bool := options.contains "numbered"

/-- Elements are told apart by a number in brackets. -/
def indexed (options : TagOptions) : Bool :=
  options.contains "indexed" || options.contains "idx"

/-- Truth values are written as `1` and `0`. -/
def int (options : TagOptions) : Bool := options.contains "int"

/-- The format of times: seconds before milliseconds before nanoseconds before a layout. -/
def timeFormat (options : TagOptions) (layout : Option String) : TimeFormat :=
  if options.contains "unix" then .unix
  else if options.contains "unixmilli" || options.contains "unix-milli" then .unixMilli
  else if options.contains "unixnano" || options.contains "unix-nano" then .unixNano
  else match layout with
    | some text => if text.isEmpty then .rfc3339 else .layout text
    | none => .rfc3339

end TagOptions

/-- A tag that was read. -/
inductive Tag where
  /-- The field takes no part in the encoding. -/
  | skip
  | spec (name : String) (options : TagOptions)
  deriving DecidableEq, Repr

namespace Tag

/-- An option as it is read, cut at its first colon. -/
def parseOption (token : List Char) : String × String :=
  (String.ofList (token.takeWhile (· != ':')), String.ofList ((token.dropWhile (· != ':')).drop 1))

/-- Reads a tag. Every text is one. -/
def parse (raw : String) : Tag :=
  if raw = "-" then skip
  else
    match raw.toList.splitOn ',' with
    | [] => spec "" []
    | name :: tokens =>
      spec (String.ofList name) ((tokens.filter fun token => !token.isEmpty).map parseOption)

/-- The name, empty where the tag sets none. -/
def name : Tag → String
  | skip => ""
  | spec name _ => name

/-- The options, none where the field is skipped. -/
def options : Tag → TagOptions
  | skip => []
  | spec _ options => options

/-- The tag sets a name. -/
def hasName (tag : Tag) : Bool := !tag.name.isEmpty

/-- The name if the tag sets one. -/
def name? (tag : Tag) : Option String :=
  if tag.hasName then some tag.name else none

def isSkip : Tag → Bool
  | skip => true
  | spec _ _ => false

end Tag

end UrlQuery
