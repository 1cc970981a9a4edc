/-!
# Keywords

Words of the language that declarations are written in. They cannot be names, unless they are marked
as raw by `r#`. In the path of an attribute some of them stand for a module.
-/

namespace UrlQuery.Derive

/-- An identifier spells a name: with the mark of a raw one in front, or as it stands if it has no
mark. -/
inductive Spells (name : String) : String → Prop where
  | raw : Spells name ("r#" ++ name)
  | plain (h : ¬ ∃ rest, name = "r#" ++ rest) : Spells name name

/-- The words that cannot be names, those kept for later included. -/
def keywords : List String :=
  ["_", "abstract", "as", "async", "await", "become", "box", "break", "const", "continue", "crate",
    "do", "dyn", "else", "enum", "extern", "false", "final", "fn", "for", "if", "impl", "in", "let",
    "loop", "macro", "match", "mod", "move", "mut", "override", "priv", "pub", "ref", "return",
    "Self", "self", "static", "struct", "super", "trait", "true", "try", "type", "typeof", "unsafe",
    "unsized", "use", "virtual", "where", "while", "yield"]

/-- The keywords that may begin a path. -/
def pathKeywords : List String := ["super", "self", "Self", "crate"]

def isKeyword (name : String) : Bool := keywords.contains name

/-- The word is a keyword and begins no path. -/
def isPathless (name : String) : Bool := isKeyword name && !pathKeywords.contains name

end UrlQuery.Derive
