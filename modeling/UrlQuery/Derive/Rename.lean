import UrlQuery.Unicode.Case

/-!
# Renaming fields

The conventions by which all fields of a struct can be renamed. A capital begins a word of its own,
and so does what follows an underscore.
-/

namespace UrlQuery

/-- A convention for names. -/
inductive RenameRule where
  | lowerCase
  | upperCase
  | camelCase
  | pascalCase
  | snakeCase
  | screamingSnakeCase
  | kebabCase
  | screamingKebabCase
  deriving DecidableEq, Repr

namespace RenameRule

/-- A rule is named by a word that follows it. -/
def parse? : String → Option RenameRule
  | "lowercase" => some lowerCase
  | "UPPERCASE" => some upperCase
  | "camelCase" => some camelCase
  | "PascalCase" => some pascalCase
  | "snake_case" => some snakeCase
  | "SCREAMING_SNAKE_CASE" => some screamingSnakeCase
  | "kebab-case" => some kebabCase
  | "SCREAMING-KEBAB-CASE" => some screamingKebabCase
  | _ => none

/--
Sets an underscore before each capital and makes it lower-case. No underscore is set at the
beginning or where one stands already; `before` is the last character that was written.
-/
def snakeFrom (before : Option Char) : List Char → List Char
  | [] => []
  | c :: rest =>
    if Unicode.isUpper c then
      (if before.all (· == '_') then [] else ['_']) ++ Unicode.lower c ++
        snakeFrom (Unicode.lower c).getLast? rest
    else c :: snakeFrom (some c) rest

def snake (cs : List Char) : List Char := snakeFrom none cs

/--
Drops underscores and capitalizes what follows one. In front of the first character that is
written they are only dropped.
-/
def camelFrom (started capital : Bool) : List Char → List Char
  | [] => []
  | c :: rest =>
    if c = '_' then camelFrom started started rest
    else (if capital then Unicode.upper c else [c]) ++ camelFrom true false rest

def camel (cs : List Char) : List Char := camelFrom false false cs

/-- The camel form with a capital in front. -/
def pascal (cs : List Char) : List Char :=
  match camel cs with
  | [] => []
  | c :: rest => Unicode.upper c ++ rest

/-- Hyphens in place of underscores. -/
def hyphenated (cs : List Char) : List Char :=
  cs.map fun c => if c = '_' then '-' else c

/-- The form that a rule gives to the characters of a name. -/
def applyChars : RenameRule → List Char → List Char
  | lowerCase, cs => Unicode.lowercase cs
  | upperCase, cs => Unicode.uppercased cs
  | camelCase, cs => camel cs
  | pascalCase, cs => pascal cs
  | snakeCase, cs => snake cs
  | screamingSnakeCase, cs => Unicode.uppercased (snake cs)
  | kebabCase, cs => hyphenated (snake cs)
  | screamingKebabCase, cs => hyphenated (Unicode.uppercased (snake cs))

/-- The form that a rule gives to a name. -/
def apply (rule : RenameRule) (name : String) : String :=
  String.ofList (rule.applyChars name.toList)

end RenameRule

end UrlQuery
