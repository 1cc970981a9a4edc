import UrlQuery.Assoc
import UrlQuery.Value.Basic

/-!
# Sorted maps

Maps whose entries are in the order of their keys. Of several entries with one key the last counts.
-/

namespace UrlQuery.Value

/-- A map from text. -/
def textMap (entries : List (String × Value)) : Value :=
  map ((Assoc.ofList entries).map fun entry => (text entry.1, entry.2))

/-- Puts an entry into entries that ascend by number. -/
def insertNumbered (n : Int) (v : Value) : List (Int × Value) → List (Int × Value)
  | [] => [(n, v)]
  | (m, w) :: rest =>
    if n < m then (n, v) :: (m, w) :: rest
    else if n = m then (n, v) :: rest
    else (m, w) :: insertNumbered n v rest

/-- A map from integers. -/
def intMap (entries : List (Int × Value)) : Value :=
  map ((entries.foldl (fun l entry => insertNumbered entry.1 entry.2 l) []).map
    fun entry => (int entry.1, entry.2))

end UrlQuery.Value
