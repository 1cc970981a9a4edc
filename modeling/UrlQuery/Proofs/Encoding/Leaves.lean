import UrlQuery.Proofs.Encoding.Injective

/-!
# Leaves of nested maps

The rules of a field reach through all maps in it. A leaf of such maps is a scalar or a sequence of
scalars. It is written as the style of the field asks for, with its options and its layout, under
the key that the path to the leaf leads to from the key of the field. Nothing else is written, and
so a field writes its leaves as if each of them were a field of that style
(`Value.encodeInto_leaves`).
-/

namespace UrlQuery

/-! ## Maps and their leaves -/

namespace Value

/-- The value behind all pointers is a scalar or a sequence of scalars. -/
def isLeaf : Value → Bool
  | seq items => items.all isScalar
  | pointer _ value => value.isLeaf
  | value => value.isScalar

mutual

/-- The value is a leaf, or a map that is not empty and whose entries lead to such values. -/
inductive IsMapTree : Value → Prop where
  | leaf {value : Value} (h : value.isLeaf = true) : IsMapTree value
  | map {entries : List (Value × Value)} (hne : entries ≠ []) (h : AreMapTrees entries) :
    IsMapTree (.map entries)
  | pointer {kind : Pointer} {value : Value} (h : IsMapTree value) : IsMapTree (.pointer kind value)

/-- The entries lead to such values, and none of them is empty. -/
inductive AreMapTrees : List (Value × Value) → Prop where
  | nil : AreMapTrees []
  | cons {name value : Value} {rest : List (Value × Value)} (hpresent : value.isEmpty = false)
    (hvalue : IsMapTree value) (hrest : AreMapTrees rest) : AreMapTrees ((name, value) :: rest)

end

mutual

/-- The leaves in the order of the entries, each with the path of names that leads to it. -/
def leaves : Value → List (List String × Value)
  | .map entries => entryLeaves entries
  | .pointer kind value => if value.isLeaf then [([], .pointer kind value)] else value.leaves
  | value => [([], value)]

/-- The leaves of the values of entries, behind the names of the entries. -/
def entryLeaves : List (Value × Value) → List (List String × Value)
  | [] => []
  | (name, value) :: rest =>
    (value.leaves.map fun leaf => (name.render {} :: leaf.1, leaf.2)) ++ entryLeaves rest

end

end Value

namespace Encoding

/--
What a leaf is written as under its key. The elements of a sequence are one value or each under a
key of its own, as the layout says, and all are rendered with the options.
-/
def Style.leafPairs (style : Style) (key : String) : Value → List (String × String)
  | .seq items =>
    let texts := items.map (·.render style.options)
    match style.layout with
    | .joined separator =>
      if items.isEmpty then [] else [(key, String.intercalate separator texts)]
    | layout => texts.mapIdx fun index text => (layout.elementKey key index, text)
  | .pointer _ value => style.leafPairs key value
  | value => [(key, value.render style.options)]

end Encoding

/-- What a leaf in the field is written as under its key: nothing, if the field is skipped. -/
def Field.leafPairs (field : Field) (key : String) (leaf : Value) : List (String × String) :=
  if field.rules.skipped then [] else field.rules.style.leafPairs key leaf

/-- What the leaves of nested maps in the field are written as, if the field has this key. -/
def Field.treePairs (field : Field) (join : ScopeJoin) (key : String) (tree : Value) :
    List (String × String) :=
  tree.leaves.flatMap fun leaf => field.leafPairs (join.path key leaf.1) leaf.2

theorem Field.treePairs_of_skipped {field : Field} (h : field.rules.skipped = true)
    (join : ScopeJoin) (key : String) (tree : Value) : field.treePairs join key tree = [] := by
  rw [treePairs, List.flatMap_eq_nil_iff]
  exact fun leaf _ => by rw [leafPairs, if_pos h]

namespace Value

/-! ### Leaves -/

theorem isStruct_of_isLeaf : ∀ {value : Value}, value.isLeaf = true → value.isStruct = false
  | .pointer _ value, h => @isStruct_of_isLeaf value h
  | .absent _, _ | .bool _, _ | .int _, _ | .uint _, _ | .single _, _ | .double _, _ | .char _, _
  | .text _, _ | .bytes _, _ | .time _, _ | .seq _, _ => rfl

theorem leaves_of_isLeaf : ∀ {value : Value}, value.isLeaf = true → value.leaves = [([], value)]
  | .pointer _ value, h => by
    have hvalue : value.isLeaf = true := h
    rw [leaves, if_pos hvalue]
  | .absent _, _ | .bool _, _ | .int _, _ | .uint _, _ | .single _, _ | .double _, _ | .char _, _
  | .text _, _ | .bytes _, _ | .time _, _ | .seq _, _ => rfl

theorem IsMapTree.isStruct_eq {value : Value} (h : value.IsMapTree) : value.isStruct = false :=
  match h with
  | .leaf h => isStruct_of_isLeaf h
  | .map _ _ => rfl
  | .pointer h => h.isStruct_eq

/-- Only a leaf can be empty. -/
theorem IsMapTree.isEmpty_of_not_isLeaf {value : Value} (h : value.IsMapTree)
    (hleaf : ¬ value.isLeaf = true) : value.isEmpty = false := by
  cases h with
  | leaf h => exact absurd h hleaf
  | map hne _ => exact List.isEmpty_eq_false_iff.2 hne
  | @pointer kind _ h =>
    cases kind with
    | reference => exact h.isEmpty_of_not_isLeaf hleaf
    | present | boxed | shared => rfl

/-- As no map is empty, each leads to a leaf. -/
theorem IsMapTree.leaves_ne_nil {value : Value} (h : value.IsMapTree) : value.leaves ≠ [] := by
  cases h with
  | leaf h =>
    rw [leaves_of_isLeaf h]
    exact List.cons_ne_nil _ _
  | map hne h =>
    cases h with
    | nil => exact absurd rfl hne
    | cons _ hvalue _ =>
      rw [leaves, entryLeaves, ne_eq, List.append_eq_nil_iff, List.map_eq_nil_iff]
      exact fun hnil => hvalue.leaves_ne_nil hnil.1
  | pointer h =>
    rw [leaves]
    split
    · exact List.cons_ne_nil _ _
    · exact h.leaves_ne_nil

mutual

/-- What stands in such a value is a leaf that is not left out. -/
theorem IsMapTree.of_mem_leaves {value : Value} :
    value.IsMapTree → value.isEmpty = false →
      ∀ leaf ∈ value.leaves, leaf.2.isLeaf = true ∧ leaf.2.isEmpty = false
  | .leaf h, hpresent => by
    rw [leaves_of_isLeaf h, List.forall_mem_singleton]
    exact ⟨h, hpresent⟩
  | .map _ h, _ => h.of_mem_entryLeaves
  | .pointer h, hpresent => by
    rw [leaves]
    split
    · next hleaf => exact List.forall_mem_singleton.2 ⟨hleaf, hpresent⟩
    · next hleaf => exact h.of_mem_leaves (h.isEmpty_of_not_isLeaf hleaf)

theorem AreMapTrees.of_mem_entryLeaves {entries : List (Value × Value)} :
    AreMapTrees entries →
      ∀ leaf ∈ entryLeaves entries, leaf.2.isLeaf = true ∧ leaf.2.isEmpty = false
  | .nil => by
    rw [entryLeaves]
    exact nofun
  | .cons hpresent hvalue hrest => by
    rw [entryLeaves, List.forall_mem_append, List.forall_mem_map]
    exact ⟨hvalue.of_mem_leaves hpresent, hrest.of_mem_entryLeaves⟩

end

/-- The path to a leaf of a map begins with the name of its entry. -/
theorem length_pos_of_mem_entryLeaves {leaf : List String × Value} :
    ∀ {entries : List (Value × Value)}, leaf ∈ entryLeaves entries → 0 < leaf.1.length
  | (_, _) :: _, hmem => by
    rw [entryLeaves, List.mem_append] at hmem
    rcases hmem with hmem | hmem
    · obtain ⟨inner, -, rfl⟩ := List.mem_map.1 hmem
      exact Nat.succ_pos _
    · exact length_pos_of_mem_entryLeaves hmem

theorem renderAll_eq_map (options : RenderOptions) (items : List Value) :
    renderAll options items = items.map (·.render options) := by
  induction items with
  | nil => rfl
  | cons item rest ih => rw [renderAll, ih, List.map_cons]

end Value

namespace Encoding

open Value (IsMapTree AreMapTrees entryLeaves)

/-! ## The walk to the leaves -/

/-- Scalars are written each under a key of its own. By induction, as the index goes on. -/
theorem outcome_elementSteps (join : ScopeJoin) (style : Style) (key : String)
    (limit level index : Nat) {items : List Value} (h : ∀ item ∈ items, item.isScalar = true)
    (p : Params) :
    outcome limit (elementSteps join style key level index items) p
      = (.ok (), p.addPairs ((items.map (·.render style.options)).mapIdx fun i text =>
          (style.layout.elementKey key (index + i), text))) := by
  induction items generalizing index p with
  | nil =>
    rw [elementSteps]
    rfl
  | cons item rest ih =>
    obtain ⟨hitem, hrest⟩ := List.forall_mem_cons.1 h
    rw [elementSteps, valueSteps_of_isScalar join _ _ _ _ _ hitem, outcome_append, outcome_write,
      Outcome.andThen_ok, ih (index + 1) hrest, List.map_cons, List.mapIdx_cons]
    simp only [Nat.add_assoc, Nat.add_comm 1]
    rfl

/-- A leaf is written as the style asks for. -/
theorem outcome_valueSteps_of_isLeaf (join : ScopeJoin) (style : Style) (scope key : String)
    (limit level : Nat) (p : Params) :
    ∀ {leaf : Value}, leaf.isLeaf = true →
      outcome limit (valueSteps join style .slot scope key level leaf) p
        = (.ok (), p.addPairs (style.leafPairs key leaf))
  | .pointer _ value, h => by
    have hvalue : value.isLeaf = true := h
    rw [valueSteps, Style.leafPairs]
    exact outcome_valueSteps_of_isLeaf join style scope key limit level p hvalue
  | .seq items, h => by
    have hscalar : ∀ item ∈ items, item.isScalar = true := List.all_eq_true.1 h
    have helements := outcome_elementSteps join style key limit level 0 hscalar p
    simp only [Nat.zero_add] at helements
    cases hlayout : style.layout with
    | joined separator =>
      simp only [valueSteps, Style.leafPairs, hlayout, joinElements, Value.renderAll_eq_map]
      split <;> rfl
    | brackets | numbered | indexed | repeated =>
      simp only [valueSteps, Style.leafPairs, hlayout] at helements ⊢
      exact helements
  | .absent none, _ | .bool _, _ | .int _, _ | .uint _, _ | .single _, _ | .double _, _
  | .char _, _ | .text _, _ | .bytes _, _ | .time _, _ => by
    rw [valueSteps_of_isScalar join _ _ _ _ _ rfl]
    rfl

mutual

/-- **The walk through nested maps writes their leaves.** By recursion along the maps. -/
theorem outcome_valueSteps_of_isMapTree (join : ScopeJoin) (style : Style) (limit : Nat)
    {value : Value} :
    value.IsMapTree → ∀ (key : String) (level : Nat),
      (∀ leaf ∈ value.leaves, level + leaf.1.length ≤ limit) → ∀ p : Params,
      outcome limit (valueSteps join style .slot key key level value) p
        = (.ok (), p.addPairs (value.leaves.flatMap fun leaf =>
            style.leafPairs (join.path key leaf.1) leaf.2))
  | .leaf h, key, level, _, p => by
    rw [outcome_valueSteps_of_isLeaf join style key key limit level p h,
      Value.leaves_of_isLeaf h, List.flatMap_singleton]
    rfl
  | .map hne h, key, level, hlevels, p => by
    -- Any leaf shows that the map itself lies within the limit.
    have hlevel : level + 1 ≤ limit := by
      obtain ⟨leaf, hleaf⟩ := List.exists_mem_of_ne_nil _ (IsMapTree.map hne h).leaves_ne_nil
      have hpath := Value.length_pos_of_mem_entryLeaves hleaf
      have hle := hlevels leaf hleaf
      omega
    rw [valueSteps, outcome_enclosed hlevel]
    exact outcome_entrySteps_of_areMapTrees join style limit h key level hlevels p
  | .pointer h, key, level, hlevels, p => by
    rw [Value.leaves] at hlevels ⊢
    rw [valueSteps]
    split at hlevels
    · next hleaf =>
      rw [if_pos hleaf, outcome_valueSteps_of_isLeaf join style key key limit level p hleaf,
        List.flatMap_singleton]
      rfl
    · next hleaf =>
      rw [if_neg hleaf]
      exact outcome_valueSteps_of_isMapTree join style limit h key level hlevels p

theorem outcome_entrySteps_of_areMapTrees (join : ScopeJoin) (style : Style) (limit : Nat)
    {entries : List (Value × Value)} :
    AreMapTrees entries → ∀ (key : String) (level : Nat),
      (∀ leaf ∈ entryLeaves entries, level + leaf.1.length ≤ limit) → ∀ p : Params,
      outcome limit (entrySteps join style key (level + 1) entries) p
        = (.ok (), p.addPairs ((entryLeaves entries).flatMap fun leaf =>
            style.leafPairs (join.path key leaf.1) leaf.2))
  | .nil, _, _, _, _ => by
    rw [entrySteps, entryLeaves]
    rfl
  | @AreMapTrees.cons _ value _ hpresent hvalue hrest, key, level, hlevels, p => by
    rw [entryLeaves, List.forall_mem_append, List.forall_mem_map] at hlevels
    -- A path goes on behind the name of the entry, in a map that lies one level further down.
    have hinner : ∀ leaf ∈ value.leaves, level + 1 + leaf.1.length ≤ limit := by
      intro leaf hleaf
      have hle := hlevels.1 leaf hleaf
      rw [List.length_cons] at hle
      omega
    rw [entrySteps, outcome_append, if_neg (by simp [hpresent]),
      outcome_valueSteps_of_isMapTree join style limit hvalue _ (level + 1) hinner,
      Outcome.andThen_ok, outcome_entrySteps_of_areMapTrees join style limit hrest key level
        hlevels.2, ← Params.addPairs_append, entryLeaves, List.flatMap_append, List.flatMap_map]
    rfl

end

/-! ## Fields that hold nested maps -/

theorem outcome_fieldSteps_of_isLeaf (join : ScopeJoin) (scope : String) (limit level : Nat)
    (field : Field) {leaf : Value} (h : leaf.isLeaf = true) (hpresent : leaf.isEmpty = false)
    (p : Params) :
    outcome limit (fieldSteps join scope level [(field, leaf)]) p
      = (.ok (), p.addPairs (field.leafPairs (join.join scope field.queryName) leaf)) := by
  cases hskipped : field.rules.skipped with
  | true =>
    rw [fieldSteps_of_passed join scope level (by simp [hskipped]), Field.leafPairs,
      if_pos hskipped]
    rfl
  | false =>
    have hpromotes := @Field.promotes_of_not_isStruct field leaf (Value.isStruct_of_isLeaf h)
    rw [fieldSteps_of_visited join scope level hskipped hpromotes (by simp [hpresent]),
      outcome_valueSteps_of_isLeaf join _ _ _ limit level p h, Field.leafPairs,
      if_neg (by simp [hskipped])]

theorem outcome_fieldSteps_of_isMapTree (join : ScopeJoin) (scope : String) {limit level : Nat}
    {field : Field} {tree : Value} (hinline : field.rules.inline = false) (h : tree.IsMapTree)
    (hpresent : tree.isEmpty = false)
    (hlevels : ∀ leaf ∈ tree.leaves, level + leaf.1.length ≤ limit) (p : Params) :
    outcome limit (fieldSteps join scope level [(field, tree)]) p
      = (.ok (), p.addPairs (field.treePairs join (join.join scope field.queryName) tree)) := by
  cases hskipped : field.rules.skipped with
  | true =>
    rw [fieldSteps_of_passed join scope level (by simp [hskipped]),
      Field.treePairs_of_skipped hskipped]
    rfl
  | false =>
    have hpromotes := @Field.promotes_of_not_isStruct field tree h.isStruct_eq
    rw [fieldSteps_of_visited join scope level hskipped hpromotes (by simp [hpresent]),
      if_neg (by simp [hinline]),
      outcome_valueSteps_of_isMapTree join field.rules.style limit h _ level hlevels]
    simp [Field.treePairs, Field.leafPairs, hskipped]

theorem run_visitFields (config : Config) (scope : String) (level : Nat)
    (fields : List (Field × Value)) (p : Params) :
    ((visitFields config scope level fields).run).run p
      = outcome config.maxDepth (fieldSteps config.scopeJoin scope level fields) p := by
  rw [visitFields_eq, outcome]

end Encoding

open Encoding

/--
**The rules of a field reach every leaf of nested maps.** Let a field that does not inline hold
maps, one in the other and none of them empty, down to leaves that are not empty.

* In a root struct, the field writes its leaves in their order, each under the key of its path, if
  no path is longer than the limit allows.
* It does so in any scope and at any level, and then the walk goes on with the fields behind it.
* What it writes of a leaf is what a field with the same rules for values writes of the leaf alone.
-/
theorem Value.encodeInto_leaves (config : Config) {field : Field} {tree : Value}
    (hinline : field.rules.inline = false) (htree : tree.IsMapTree)
    (hpresent : tree.isEmpty = false) :
    ((∀ leaf ∈ tree.leaves, leaf.1.length ≤ config.maxDepth) → ∀ p,
      (Value.struct [(field, tree)]).encodeInto config p
        = (.ok (), p.addPairs (field.treePairs config.scopeJoin field.queryName tree))) ∧
    (∀ scope level, (∀ leaf ∈ tree.leaves, level + leaf.1.length ≤ config.maxDepth) → ∀ rest p,
      ((visitFields config scope level ((field, tree) :: rest)).run).run p
        = ((visitFields config scope level rest).run).run
            (p.addPairs (field.treePairs config.scopeJoin
              (config.scopeJoin.join scope field.queryName) tree))) ∧
    ∀ leaf ∈ tree.leaves, ∀ other : Field, other.rules.skipped = field.rules.skipped →
      other.rules.style = field.rules.style → ∀ scope level p,
        ((visitFields config scope level [(other, leaf.2)]).run).run p
          = (.ok (), p.addPairs (field.leafPairs
              (config.scopeJoin.join scope other.queryName) leaf.2)) := by
  refine ⟨fun hlevels p => ?_, fun scope level hlevels rest p => ?_, ?_⟩
  · have hroot : ∀ leaf ∈ tree.leaves, 0 + leaf.1.length ≤ config.maxDepth := by
      simpa only [Nat.zero_add] using hlevels
    rw [encodeInto_struct,
      outcome_fieldSteps_of_isMapTree config.scopeJoin "" hinline htree hpresent hroot,
      promotedSteps_of_not_promotes _ _ _ (Field.promotes_of_not_isStruct htree.isStruct_eq),
      Outcome.andThen_ok, outcome_nil, ScopeJoin.join_empty]
  · rw [run_visitFields, run_visitFields, ← List.singleton_append, fieldSteps_append,
      outcome_append,
      outcome_fieldSteps_of_isMapTree config.scopeJoin scope hinline htree hpresent hlevels,
      Outcome.andThen_ok]
  · intro leaf hleaf other hskipped hstyle scope level p
    obtain ⟨h, hleafPresent⟩ := htree.of_mem_leaves hpresent leaf hleaf
    rw [run_visitFields, outcome_fieldSteps_of_isLeaf _ _ _ _ other h hleafPresent,
      Field.leafPairs, hskipped, hstyle, Field.leafPairs]

/-- Maps in two levels, as deep as the limit allows, in a field with a layout and an option. -/
theorem Value.encodeInto_leaves_indexed :
    let field : Field := { name := "n", tag := "m,int,idx" }
    let inner := Value.map [(.uint 7, .seq [.bool true, .bool false]), (.text "b", .bool true)]
    let tree := Value.map [(.text "x", .pointer .boxed inner),
      (.text "y", .pointer .present (.int 0))]
    let config : Config := { maxDepth := 2, scopeJoin := .dots }
    let other : Field := { name := "leaf", tag := ",idx,int" }
    field.rules.inline = false ∧ tree.IsMapTree ∧ tree.isEmpty = false ∧
      (Value.struct [(field, tree)]).encodeInto config Params.empty
        = (.ok (), Params.ofPairs (field.treePairs .dots "m" tree)) ∧
      field.treePairs .dots "m" tree
        = [("m.x.7[0]", "1"), ("m.x.7[1]", "0"), ("m.x.b", "1"), ("m.y", "0")] ∧
      ((visitFields config "s" 0 [(field, tree), (other, .text "t")]).run).run Params.empty
        = ((visitFields config "s" 0 [(other, .text "t")]).run).run
            (Params.ofPairs (field.treePairs .dots "s.m" tree)) ∧
      ((visitFields config "" 0 [(other, .seq [.bool true, .bool false])]).run).run Params.empty
        = (.ok (), Params.ofPairs [("leaf[0]", "1"), ("leaf[1]", "0")]) := by
  intro field inner tree config other
  have hinline : field.rules.inline = false := by decide
  have hstyle : field.rules.style = { options := { intBool := true }, layout := .indexed } := by
    decide
  have hskipped : field.rules.skipped = false := by decide
  have hname : field.queryName = "m" := by decide
  have hinner : inner.IsMapTree :=
    .map nofun (.cons rfl (.leaf rfl) (.cons rfl (.leaf rfl) .nil))
  have htree : tree.IsMapTree :=
    .map nofun (.cons rfl (.pointer hinner) (.cons rfl (.leaf rfl) .nil))
  have hleaves : tree.leaves = [(["x", "7"], .seq [.bool true, .bool false]),
      (["x", "b"], .bool true), (["y"], .pointer .present (.int 0))] := by rfl
  have hpairs : field.treePairs .dots "m" tree
      = [("m.x.7[0]", "1"), ("m.x.7[1]", "0"), ("m.x.b", "1"), ("m.y", "0")] := by
    simp only [Field.treePairs, Field.leafPairs, hskipped, hstyle, hleaves]
    rfl
  have hleafPairs : field.leafPairs "leaf" (.seq [.bool true, .bool false])
      = [("leaf[0]", "1"), ("leaf[1]", "0")] := by
    simp only [Field.leafPairs, hskipped, hstyle]
    rfl
  have h := Value.encodeInto_leaves config hinline htree rfl
  refine ⟨hinline, htree, rfl, ?_, hpairs, ?_, ?_⟩
  · have hroot := h.1 (by rw [hleaves]; decide) Params.empty
    rwa [hname] at hroot
  · have hfirst := h.2.1 "s" 0 (by rw [hleaves]; decide) [(other, .text "t")] Params.empty
    rwa [hname] at hfirst
  · have hleaf := h.2.2 (["x", "7"], .seq [.bool true, .bool false]) (by rw [hleaves]; simp)
      other (by decide) (by rw [hstyle]; decide) "" 0 Params.empty
    have hother : other.queryName = "leaf" := by decide
    rw [hother, ScopeJoin.join_empty, hleafPairs] at hleaf
    exact hleaf

end UrlQuery
