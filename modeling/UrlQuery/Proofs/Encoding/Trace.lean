import UrlQuery.Encoding.Basic
import UrlQuery.Proofs.Encoding.Step
import UrlQuery.Proofs.Params.Laws

/-!
# The trace of an encoding

A walk through a value does not look at the parameters, unless an encoder of the value does. So
what it will do can be listed beforehand: a list of `Step`s, which depends on the value and on how
keys are nested, and neither on the limit of the depth nor on the parameters. An encoding is the
run of that list, up to the first step that fails (`encodeInto_eq`).

The list tells which containers are visited (`Step.enter`), in the order of the walk, each with its
scope and its level:

* the root has level 0;
* a promoted struct, and a map or struct that is an element of a sequence read in pairs, have the
  level of what holds them;
* any other container lies one level below what holds it, where the elements of a sequence that is
  laid out are held by the struct or map that holds the sequence.

Fields that are skipped or left out, empty entries of a map, sequences that are joined and the
values of pairs are not visited.
-/

namespace UrlQuery

namespace Encoding

/-! ## The steps of a value -/

mutual

/-- The steps of the fields of a struct that are not promoted. -/
def fieldSteps (join : ScopeJoin) (scope : String) (level : Nat) :
    List (Field × Value) → List Step
  | [] => []
  | (field, value) :: rest =>
    let rules := field.rules
    let key := join.join scope field.queryName
    (if rules.skipped || field.promotes value || (rules.omitEmpty && value.isEmpty) then []
      else valueSteps join rules.style .slot (if rules.inline then scope else key) key level value)
      ++ fieldSteps join scope level rest

/-- The steps of the structs that promoted fields hold. -/
def promotedSteps (join : ScopeJoin) (scope : String) (level : Nat) :
    List (Field × Value) → List Step
  | [] => []
  | (field, value) :: rest =>
    (if !field.rules.skipped && field.promotes value then inPlaceSteps join scope level value
      else [])
      ++ promotedSteps join scope level rest

/-- The steps of the entries of a map that are not empty. -/
def entrySteps (join : ScopeJoin) (style : Style) (scope : String) (level : Nat) :
    List (Value × Value) → List Step
  | [] => []
  | (name, value) :: rest =>
    let key := join.join scope (name.render {})
    (if value.isEmpty then [] else valueSteps join style .slot key key level value)
      ++ entrySteps join style scope level rest

/-- The steps of the elements of a sequence, each under a key of its own. -/
def elementSteps (join : ScopeJoin) (style : Style) (key : String) (level index : Nat) :
    List Value → List Step
  | [] => []
  | value :: rest =>
    let elementKey := style.layout.elementKey key index
    valueSteps join style .element elementKey elementKey level value
      ++ elementSteps join style key level (index + 1) rest

/-- The steps of a sequence read in pairs. -/
def pairSteps (join : ScopeJoin) (scope : String) (level : Nat) : List Value → List Step
  | [] => []
  | first :: rest =>
    if first.isContainer then inPlaceSteps join scope level first ++ pairSteps join scope level rest
    else
      match rest with
      | [] => []
      | second :: rest =>
        .write (first.render {}) (second.render {}) :: pairSteps join scope level rest

/-- The steps of a map or a struct that takes over the scope and the level of what holds it. -/
def inPlaceSteps (join : ScopeJoin) (scope : String) (level : Nat) : Value → List Step
  | .map entries => .enter scope level :: entrySteps join {} scope level entries ++ [.leave]
  | .struct fields =>
    .enter scope level
      :: (fieldSteps join scope level fields ++ promotedSteps join scope level fields) ++ [.leave]
  | .pointer _ value => inPlaceSteps join scope level value
  | _ => []

/-- The steps of a value under its key, held by something at a level. -/
def valueSteps (join : ScopeJoin) (style : Style) (place : Place) (scope key : String)
    (level : Nat) : Value → List Step
  | .custom encoder _ => [.custom encoder key]
  | .absent (some encoder) => [.custom encoder key]
  | .seq items =>
    match place with
    | .slot =>
      match style.layout with
      | .joined separator =>
        if items.isEmpty then [] else [.write key (joinElements style.options separator items)]
      | _ => elementSteps join style key level 0 items
    | .element => .enter key (level + 1) :: pairSteps join key (level + 1) items ++ [.leave]
  | .map entries =>
    .enter scope (level + 1) :: entrySteps join style scope (level + 1) entries ++ [.leave]
  | .struct fields =>
    .enter scope (level + 1)
      :: (fieldSteps join scope (level + 1) fields ++ promotedSteps join scope (level + 1) fields)
      ++ [.leave]
  | .pointer _ value => valueSteps join style place scope key level value
  | value => [.write key (value.render style.options)]

end

/-- The steps of a query string: one for each of its pairs. -/
def querySteps (bytes : List UInt8) : List Step :=
  (Form.decodePairs (bytes.dropWhile (· == 0x3F))).map fun kv => .write kv.1 kv.2

/-- The steps of a root. -/
def rootSteps (join : ScopeJoin) : Value → List Step
  | .absent _ => []
  | .text query => querySteps (Utf8.encode query)
  | .bytes query => querySteps query
  | .int n =>
    if Value.fitsSigned n then [.refuse .int] else querySteps (Utf8.encode (toString n))
  | .uint n =>
    if Value.fitsUnsigned n then [.refuse .uint] else querySteps (Utf8.encode (toString n))
  | .seq items => .enter "" 0 :: pairSteps join "" 0 items ++ [.leave]
  | .map entries => inPlaceSteps join "" 0 (.map entries)
  | .struct fields => inPlaceSteps join "" 0 (.struct fields)
  | .pointer _ value => rootSteps join value
  | value => [.refuse value.kind]

/-! ## The traversal runs its steps -/

mutual

theorem visitFields_eq (config : Config) (scope : String) (level : Nat) :
    ∀ fields : List (Field × Value),
      visitFields config scope level fields
        = runSteps config.maxDepth (fieldSteps config.scopeJoin scope level fields)
  | [] => by rw [visitFields, fieldSteps, runSteps_nil]
  | (field, value) :: rest => by
    rw [visitFields, fieldSteps, runSteps_append, visitFields_eq config scope level rest]
    split
    · rfl
    · simp only [visitValue_eq config field.rules.style .slot _ _ level value]

theorem visitPromoted_eq (config : Config) (scope : String) (level : Nat) :
    ∀ fields : List (Field × Value),
      visitPromoted config scope level fields
        = runSteps config.maxDepth (promotedSteps config.scopeJoin scope level fields)
  | [] => by rw [visitPromoted, promotedSteps, runSteps_nil]
  | (field, value) :: rest => by
    rw [visitPromoted, promotedSteps, runSteps_append, visitPromoted_eq config scope level rest]
    split
    · rw [visitInPlace_eq config scope level value]
    · rfl

theorem visitEntries_eq (config : Config) (style : Style) (scope : String) (level : Nat) :
    ∀ entries : List (Value × Value),
      visitEntries config style scope level entries
        = runSteps config.maxDepth (entrySteps config.scopeJoin style scope level entries)
  | [] => by rw [visitEntries, entrySteps, runSteps_nil]
  | (name, value) :: rest => by
    rw [visitEntries, entrySteps, runSteps_append, visitEntries_eq config style scope level rest]
    split
    · rfl
    · simp only [visitValue_eq config style .slot _ _ level value]

theorem visitElements_eq (config : Config) (style : Style) (key : String) (level index : Nat) :
    ∀ items : List Value,
      visitElements config style key level index items
        = runSteps config.maxDepth (elementSteps config.scopeJoin style key level index items)
  | [] => by rw [visitElements, elementSteps, runSteps_nil]
  | value :: rest => by
    rw [visitElements, elementSteps, runSteps_append,
      visitElements_eq config style key level (index + 1) rest]
    congr 1
    exact visitValue_eq config style .element _ _ level value

theorem visitPairs_eq (config : Config) (scope : String) (level : Nat) :
    ∀ items : List Value,
      visitPairs config scope level items
        = runSteps config.maxDepth (pairSteps config.scopeJoin scope level items)
  | [] => by rw [visitPairs, pairSteps, runSteps_nil]
  | [first] => by
    rw [visitPairs, pairSteps]
    split
    · rw [runSteps_append, visitInPlace_eq config scope level first, visitPairs, pairSteps,
        runSteps_nil]
    · rfl
  | first :: second :: rest => by
    rw [visitPairs, pairSteps]
    split
    -- A container is taken alone, so the next element may be a container or a key in its turn.
    · rw [runSteps_append, visitInPlace_eq config scope level first,
        visitPairs_eq config scope level (second :: rest)]
    · rw [runSteps_cons, visitPairs_eq config scope level rest]
      rfl

theorem visitInPlace_eq (config : Config) (scope : String) (level : Nat) :
    ∀ value : Value,
      visitInPlace config scope level value
        = runSteps config.maxDepth (inPlaceSteps config.scopeJoin scope level value)
  | .map entries => by
    rw [visitInPlace, inPlaceSteps, visitEntries_eq config {} scope level entries]
    simp [runStep, enter]
  | .struct fields => by
    rw [visitInPlace, inPlaceSteps, visitFields_eq config scope level fields,
      visitPromoted_eq config scope level fields]
    simp [runStep, enter]
  | .pointer _ value => by
    rw [visitInPlace, inPlaceSteps, visitInPlace_eq config scope level value]
  | .absent _ | .bool _ | .int _ | .uint _ | .single _ | .double _ | .char _ | .text _ | .bytes _
  | .time _ | .seq _ | .custom _ _ => by simp [visitInPlace, inPlaceSteps]

theorem visitValue_eq (config : Config) (style : Style) (place : Place) (scope key : String)
    (level : Nat) :
    ∀ value : Value,
      visitValue config style place scope key level value
        = runSteps config.maxDepth
            (valueSteps config.scopeJoin style place scope key level value)
  | .custom encoder _ | .absent (some encoder) => by simp [visitValue, valueSteps, runStep]
  | .seq items => by
    cases place with
    | slot =>
      cases hlayout : style.layout with
      | joined separator =>
        simp only [visitValue, valueSteps, hlayout]
        split <;> simp [runStep]
      | brackets | numbered | indexed | repeated =>
        simp only [visitValue, valueSteps, hlayout]
        exact visitElements_eq config style key level 0 items
    | element =>
      rw [visitValue, valueSteps, visitPairs_eq config key (level + 1) items]
      simp [runStep, enter]
  | .map entries => by
    rw [visitValue, valueSteps, visitEntries_eq config style scope (level + 1) entries]
    simp [runStep, enter]
  | .struct fields => by
    rw [visitValue, valueSteps, visitFields_eq config scope (level + 1) fields,
      visitPromoted_eq config scope (level + 1) fields]
    simp [runStep, enter]
  | .pointer _ value => by
    rw [visitValue, valueSteps, visitValue_eq config style place scope key level value]
  | .absent none | .bool _ | .int _ | .uint _ | .single _ | .double _ | .char _ | .text _
  | .bytes _ | .time _ => by simp [visitValue, valueSteps, runStep]

end

/-- A query string is read pair by pair. -/
theorem runSteps_querySteps (limit : Nat) (bytes : List UInt8) :
    runSteps limit (querySteps bytes) = modify (·.merge (Params.parseBytes bytes)) := by
  have hpairs : ∀ pairs : List (String × String),
      runSteps limit (pairs.map fun kv => .write kv.1 kv.2) = modify (·.addPairs pairs) := by
    intro pairs
    induction pairs with
    | nil => rfl
    | cons kv rest ih =>
      rw [List.map_cons, runSteps_cons, ih]
      rfl
  rw [querySteps, hpairs, Params.parseBytes]
  congr 1
  funext p
  exact p.addPairs_eq_merge _

theorem visitRoot_eq (config : Config) :
    ∀ value : Value,
      visitRoot config value = runSteps config.maxDepth (rootSteps config.scopeJoin value)
  | .absent _ => rfl
  | .text _ => by rw [visitRoot, rootSteps, runSteps_querySteps]; rfl
  | .bytes _ => by rw [visitRoot, rootSteps, runSteps_querySteps]
  | .int _ | .uint _ => by
    rw [visitRoot, rootSteps]
    split
    · simp [runStep]
    · rw [runSteps_querySteps]; rfl
  | .seq items => by
    rw [visitRoot, rootSteps, visitPairs_eq config "" 0 items]
    simp [runStep, enter]
  | .map _ | .struct _ => by rw [visitRoot, rootSteps, visitInPlace_eq]
  | .pointer _ value => by rw [visitRoot, rootSteps, visitRoot_eq config value]
  | .bool _ | .single _ | .double _ | .char _ | .time _ | .custom _ _ => by
    simp [visitRoot, rootSteps, runStep]

end Encoding

/-- **An encoding is the run of the steps of its value.** -/
theorem Value.encodeInto_eq (config : Config) (value : Value) (p : Params) :
    value.encodeInto config p
      = Encoding.outcome config.maxDepth (Encoding.rootSteps config.scopeJoin value) p := by
  rw [Value.encodeInto, Encoding.visitRoot_eq, Encoding.outcome]

namespace Encoding

/-- What an encoding with no error leaves of the empty parameters. -/
theorem encode_eq_ok_iff {config : Config} {value : Value} {p : Params} :
    value.encode config = .ok p ↔ value.encodeInto config Params.empty = (.ok (), p) := by
  unfold Value.encode
  split
  · next q hq => simp [hq]
  · next e q hq => simp [hq]

theorem encode_eq_error_iff {config : Config} {value : Value} {e : Error} :
    value.encode config = .error e ↔
      ∃ left, value.encodeInto config Params.empty = (.error e, left) := by
  unfold Value.encode
  split
  · next q hq => simp [hq]
  · next e q hq => simp [hq]

end Encoding

end UrlQuery
