/-!
# Configuration

How keys are nested and how deep.
-/

namespace UrlQuery

/-- How a name is attached to the scope around it. -/
inductive ScopeJoin where
  /-- `scope[name]` -/
  | brackets
  /-- `scope.name` -/
  | dots
  deriving DecidableEq, Repr

/-- The key of a name in a scope. In the empty scope it is the name alone. -/
def ScopeJoin.join (style : ScopeJoin) (scope name : String) : String :=
  if scope.isEmpty then name
  else
    match style with
    | brackets => scope ++ "[" ++ name ++ "]"
    | dots => scope ++ "." ++ name

/-- What an encoding is configured by. -/
structure Config where
  /-- The deepest level at which a map, a struct or a sequence is still visited. -/
  maxDepth : Nat := 32
  scopeJoin : ScopeJoin := .brackets
  deriving DecidableEq, Repr

end UrlQuery
