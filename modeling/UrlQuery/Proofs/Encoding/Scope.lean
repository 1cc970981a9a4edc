import UrlQuery.Proofs.Encoding.Keys

/-!
# The scope of an entry

A map or a struct in an entry writes in the scope of the entry alone, and does not look at the name
of that scope: what it does is the same under every key, but for the key at the front
(`encodeInto_entry_uniform`). This holds unless a sequence is read in pairs, as the keys of pairs
stand without a scope.

Steps whose keys begin with a key `k` are a family indexed by `k`. It is `Uniform` if one list of
steps, whose keys are the tails behind `k`, makes all its members. Families are put together by
`Uniform.append` and `Uniform.enclosed`, along the walk.
-/

namespace UrlQuery

/-! ## Sequences read in pairs -/

namespace Value

open Encoding (Style Place)

mutual

/-- A walk through the value, which stands in a field of a style, reads some sequence in pairs. -/
def readsPairs (style : Style) (place : Place) : Value → Bool
  | .seq items =>
    match place with
    | .slot =>
      match style.layout with
      | .joined _ => false
      | _ => itemsReadPairs style items
    | .element => true
  | .map entries => entriesReadPairs style entries
  | .struct fields => fieldsReadPairs fields
  | .pointer _ value => value.readsPairs style place
  | _ => false

/-- A walk through elements that are laid out reads some sequence in pairs. -/
def itemsReadPairs (style : Style) : List Value → Bool
  | [] => false
  | value :: rest => value.readsPairs style .element || itemsReadPairs style rest

/-- A walk through entries reads some sequence in pairs. Empty values are passed over. -/
def entriesReadPairs (style : Style) : List (Value × Value) → Bool
  | [] => false
  | (_, value) :: rest =>
    (!value.isEmpty && value.readsPairs style .slot) || entriesReadPairs style rest

/-- A walk through fields, promoted or not, reads some sequence in pairs. -/
def fieldsReadPairs : List (Field × Value) → Bool
  | [] => false
  | (field, value) :: rest =>
    let rules := field.rules
    (!(rules.skipped || (rules.omitEmpty && value.isEmpty)) && value.readsPairs rules.style .slot)
      || fieldsReadPairs rest

end

end Value

/-! ## Keys and their tails -/

namespace ScopeJoin

/-- What is put behind a scope that is not empty. -/
def suffix (join : ScopeJoin) (name : String) : String :=
  String.ofList (join.mark :: (name.toList ++ join.close))

/-- The text begins with the mark that goes before a name in a scope. -/
def Marked (join : ScopeJoin) (tail : String) : Prop :=
  tail.toList.head? = some join.mark

/-- What can stand in a scope behind its first key: nothing, or names. -/
def IsTail (join : ScopeJoin) (tail : String) : Prop :=
  tail = "" ∨ join.Marked tail

variable {join : ScopeJoin} {scope tail : String}

theorem join_eq_append (h : scope ≠ "") (name : String) :
    join.join scope name = scope ++ join.suffix name := by
  apply String.toList_injective
  rw [toList_join_of_ne h, String.toList_append, suffix, String.toList_ofList]

theorem marked_suffix (join : ScopeJoin) (name : String) : join.Marked (join.suffix name) := by
  simp [Marked, suffix]

theorem Marked.append (h : join.Marked tail) (rest : String) : join.Marked (tail ++ rest) := by
  rw [Marked, String.toList_append, List.head?_append, h]
  rfl

/-- A name in a scope that begins with a key. -/
theorem join_append {key : String} (hkey : key ≠ "") (join : ScopeJoin) (tail name : String) :
    join.join (key ++ tail) name = key ++ (tail ++ join.suffix name) := by
  have hne : key ++ tail ≠ "" := by simp [hkey]
  rw [join_eq_append hne, String.append_assoc]

/-- A name behind a tail makes it begin with a mark, unless it does already. -/
theorem IsTail.marked_append_suffix (h : join.IsTail tail) (name : String) :
    join.Marked (tail ++ join.suffix name) := by
  rcases h with rfl | h
  · rw [String.empty_append]
    exact marked_suffix join name
  · exact h.append _

end ScopeJoin

theorem SeqLayout.elementKey_append (layout : SeqLayout) (key tail : String) (index : Nat) :
    layout.elementKey (key ++ tail) index = key ++ layout.elementKey tail index := by
  cases layout <;> simp [elementKey, String.append_assoc]

theorem SeqLayout.marked_elementKey {join : ScopeJoin} {key : String} (h : join.Marked key)
    (layout : SeqLayout) (index : Nat) : join.Marked (layout.elementKey key index) := by
  rw [← String.append_empty (s := key), elementKey_append]
  exact h.append _

/-! ## Families of steps -/

/-- The step with a key in front of its own. -/
def Step.under (key : String) : Step → Step
  | .write tail value => .write (key ++ tail) value
  | .custom encoder tail => .custom encoder (key ++ tail)
  | .enter tail level => .enter (key ++ tail) level
  | .leave => .leave
  | .refuse kind => .refuse kind

/-- The keys of the step are tails of keys, and it writes behind a mark. -/
def Step.IsTail (join : ScopeJoin) : Step → Prop
  | .write tail _ | .custom _ tail => join.Marked tail
  | .enter tail _ => join.IsTail tail
  | .leave => True
  | .refuse _ => False

namespace Encoding

open Value (itemsReadPairs entriesReadPairs fieldsReadPairs)

/--
Steps for each key, which are the same under all keys that are not empty, each with the key in
front, and write behind a mark.
-/
def Uniform (join : ScopeJoin) (steps : String → List Step) : Prop :=
  ∃ tails : List Step, (∀ step ∈ tails, step.IsTail join) ∧
    ∀ key, key ≠ "" → steps key = tails.map (Step.under key)

section

variable {join : ScopeJoin} {a b : String → List Step} {tail : String}

theorem Uniform.congr (h : Uniform join a) (heq : ∀ key, key ≠ "" → b key = a key) :
    Uniform join b := by
  obtain ⟨tails, htails, ha⟩ := h
  exact ⟨tails, htails, fun key hkey => (heq key hkey).trans (ha key hkey)⟩

theorem uniform_nil : Uniform join fun _ => [] :=
  ⟨[], by simp, fun _ _ => rfl⟩

theorem uniform_write (h : join.Marked tail) (value : String) :
    Uniform join fun key => [.write (key ++ tail) value] :=
  ⟨[.write tail value], List.forall_mem_singleton.2 h, fun _ _ => rfl⟩

theorem uniform_custom (h : join.Marked tail) (encoder : CustomEncoder) :
    Uniform join fun key => [.custom encoder (key ++ tail)] :=
  ⟨[.custom encoder tail], List.forall_mem_singleton.2 h, fun _ _ => rfl⟩

theorem Uniform.append (ha : Uniform join a) (hb : Uniform join b) :
    Uniform join fun key => a key ++ b key := by
  obtain ⟨tails, htails, ha⟩ := ha
  obtain ⟨tails', htails', hb⟩ := hb
  refine ⟨tails ++ tails', List.forall_mem_append.2 ⟨htails, htails'⟩, fun key hkey => ?_⟩
  simp only [ha key hkey, hb key hkey, List.map_append]

theorem Uniform.enclosed (h : join.IsTail tail) (level : Nat) (ha : Uniform join a) :
    Uniform join fun key => .enter (key ++ tail) level :: a key ++ [.leave] := by
  obtain ⟨tails, htails, ha⟩ := ha
  refine ⟨.enter tail level :: tails ++ [.leave], ?_, fun key hkey => ?_⟩
  · rw [List.cons_append, List.forall_mem_cons, List.forall_mem_append, List.forall_mem_singleton]
    exact ⟨h, htails, trivial⟩
  · simp only [ha key hkey, List.map_append, List.map_cons]
    rfl

end

/-! ## The walk in a scope -/

/-- The fields of a struct have styles of their own, wherever it stands. -/
theorem readsPairs_of_isStruct (style : Style) (place : Place) :
    ∀ value : Value, value.isStruct = true →
      value.readsPairs style place = value.readsPairs {} .slot
  | .struct _, _ => by rw [Value.readsPairs, Value.readsPairs]
  | .pointer _ value, h => by
    rw [Value.readsPairs, Value.readsPairs]
    exact readsPairs_of_isStruct style place value h

mutual

theorem uniform_fieldSteps (join : ScopeJoin) {tail : String} (htail : join.IsTail tail)
    (level : Nat) :
    ∀ fields : List (Field × Value), fieldsReadPairs fields = false →
      Uniform join fun key => fieldSteps join (key ++ tail) level fields
  | [], _ => uniform_nil.congr fun _ _ => by rw [fieldSteps]
  | (field, value) :: rest, h => by
    rw [fieldsReadPairs, Bool.or_eq_false_iff] at h
    have hrest := uniform_fieldSteps join htail level rest h.2
    by_cases hskip : (field.rules.skipped || field.promotes value
        || (field.rules.omitEmpty && value.isEmpty)) = true
    · refine hrest.congr fun key _ => ?_
      rw [fieldSteps, if_pos hskip, List.nil_append]
    · have hpairs : value.readsPairs field.rules.style .slot = false := by
        simp only [Bool.or_eq_true, not_or, Bool.not_eq_true] at hskip
        simpa [hskip] using h.1
      have hkey := htail.marked_append_suffix field.queryName
      -- An inlined value opens the scope of the struct around it.
      have hscope : join.IsTail
          (if field.rules.inline then tail else tail ++ join.suffix field.queryName) := by
        split
        · exact htail
        · exact .inr hkey
      refine ((uniform_valueSteps join field.rules.style .slot hscope hkey level value
        hpairs).append hrest).congr fun key hne => ?_
      rw [fieldSteps, if_neg hskip, ScopeJoin.join_append hne]
      split <;> rfl

theorem uniform_promotedSteps (join : ScopeJoin) {tail : String} (htail : join.IsTail tail)
    (level : Nat) :
    ∀ fields : List (Field × Value), fieldsReadPairs fields = false →
      Uniform join fun key => promotedSteps join (key ++ tail) level fields
  | [], _ => uniform_nil.congr fun _ _ => by rw [promotedSteps]
  | (field, value) :: rest, h => by
    rw [fieldsReadPairs, Bool.or_eq_false_iff] at h
    have hrest := uniform_promotedSteps join htail level rest h.2
    by_cases hpromoted : (!field.rules.skipped && field.promotes value) = true
    · have hstruct : value.isStruct = true := by
        simp only [Field.promotes, Bool.and_eq_true] at hpromoted
        exact hpromoted.2.2
      have hpairs : value.readsPairs {} .slot = false := by
        simp only [Bool.and_eq_true, Bool.not_eq_true'] at hpromoted
        simpa [hpromoted, isEmpty_of_isStruct value hstruct,
          readsPairs_of_isStruct _ _ value hstruct] using h.1
      refine ((uniform_inPlaceSteps join htail level value hpairs).append hrest).congr
        fun key _ => ?_
      rw [promotedSteps, if_pos hpromoted]
    · refine hrest.congr fun key _ => ?_
      rw [promotedSteps, if_neg hpromoted, List.nil_append]

theorem uniform_entrySteps (join : ScopeJoin) (style : Style) {tail : String}
    (htail : join.IsTail tail) (level : Nat) :
    ∀ entries : List (Value × Value), entriesReadPairs style entries = false →
      Uniform join fun key => entrySteps join style (key ++ tail) level entries
  | [], _ => uniform_nil.congr fun _ _ => by rw [entrySteps]
  | (name, value) :: rest, h => by
    rw [entriesReadPairs, Bool.or_eq_false_iff] at h
    have hrest := uniform_entrySteps join style htail level rest h.2
    by_cases hempty : value.isEmpty = true
    · refine hrest.congr fun key _ => ?_
      rw [entrySteps, if_pos hempty, List.nil_append]
    · have hpairs : value.readsPairs style .slot = false := by simpa [hempty] using h.1
      have hkey := htail.marked_append_suffix (name.render {})
      refine ((uniform_valueSteps join style .slot (.inr hkey) hkey level value
        hpairs).append hrest).congr fun key hne => ?_
      rw [entrySteps, if_neg hempty, ScopeJoin.join_append hne]

theorem uniform_elementSteps (join : ScopeJoin) (style : Style) {tail : String}
    (htail : join.Marked tail) (level index : Nat) :
    ∀ items : List Value, itemsReadPairs style items = false →
      Uniform join fun key => elementSteps join style (key ++ tail) level index items
  | [], _ => uniform_nil.congr fun _ _ => by rw [elementSteps]
  | value :: rest, h => by
    rw [itemsReadPairs, Bool.or_eq_false_iff] at h
    have hkey := style.layout.marked_elementKey htail index
    refine ((uniform_valueSteps join style .element (.inr hkey) hkey level value h.1).append
      (uniform_elementSteps join style htail level (index + 1) rest h.2)).congr fun key _ => ?_
    rw [elementSteps, SeqLayout.elementKey_append]

theorem uniform_inPlaceSteps (join : ScopeJoin) {tail : String} (htail : join.IsTail tail)
    (level : Nat) :
    ∀ value : Value, value.readsPairs {} .slot = false →
      Uniform join fun key => inPlaceSteps join (key ++ tail) level value
  | .map entries, h => by
    rw [Value.readsPairs] at h
    refine ((uniform_entrySteps join {} htail level entries h).enclosed htail level).congr
      fun key _ => ?_
    rw [inPlaceSteps]
  | .struct fields, h => by
    rw [Value.readsPairs] at h
    refine (((uniform_fieldSteps join htail level fields h).append
      (uniform_promotedSteps join htail level fields h)).enclosed htail level).congr fun key _ => ?_
    rw [inPlaceSteps]
  | .pointer _ value, h => by
    rw [Value.readsPairs] at h
    refine (uniform_inPlaceSteps join htail level value h).congr fun key _ => ?_
    rw [inPlaceSteps]
  | .absent _, _ | .bool _, _ | .int _, _ | .uint _, _ | .single _, _ | .double _, _ | .char _, _
  | .text _, _ | .bytes _, _ | .time _, _ | .seq _, _ | .custom _ _, _ =>
    uniform_nil.congr fun _ _ => by simp [inPlaceSteps]

theorem uniform_valueSteps (join : ScopeJoin) (style : Style) (place : Place)
    {scope tail : String} (hscope : join.IsTail scope) (htail : join.Marked tail) (level : Nat) :
    ∀ value : Value, value.readsPairs style place = false →
      Uniform join fun key => valueSteps join style place (key ++ scope) (key ++ tail) level value
  | .custom encoder _, _ | .absent (some encoder), _ =>
    (uniform_custom htail encoder).congr fun key _ => by rw [valueSteps]
  | .seq items, h => by
    cases place with
    | slot =>
      cases hlayout : style.layout with
      | joined separator =>
        by_cases hempty : items.isEmpty = true
        · refine uniform_nil.congr fun key _ => ?_
          simp only [valueSteps, hlayout, if_pos hempty]
        · refine (uniform_write htail (joinElements style.options separator items)).congr
            fun key _ => ?_
          simp only [valueSteps, hlayout, if_neg hempty]
      | brackets | numbered | indexed | repeated =>
        simp only [Value.readsPairs, hlayout] at h
        refine (uniform_elementSteps join style htail level 0 items h).congr fun key _ => ?_
        simp only [valueSteps, hlayout]
    | element => simp [Value.readsPairs] at h
  | .map entries, h => by
    rw [Value.readsPairs] at h
    refine ((uniform_entrySteps join style hscope (level + 1) entries h).enclosed hscope
      (level + 1)).congr fun key _ => ?_
    rw [valueSteps]
  | .struct fields, h => by
    rw [Value.readsPairs] at h
    refine (((uniform_fieldSteps join hscope (level + 1) fields h).append
      (uniform_promotedSteps join hscope (level + 1) fields h)).enclosed hscope
      (level + 1)).congr fun key _ => ?_
    rw [valueSteps]
  | .pointer _ value, h => by
    rw [Value.readsPairs] at h
    refine (uniform_valueSteps join style place hscope htail level value h).congr fun key _ => ?_
    rw [valueSteps]
  | .absent none, _ | .bool _, _ | .int _, _ | .uint _, _ | .single _, _ | .double _, _
  | .char _, _ | .text _, _ | .bytes _, _ | .time _, _ =>
    (uniform_write htail _).congr fun _ _ => valueSteps_of_isScalar join style place _ _ level rfl

end

/-! ## Tails of keys -/

theorem fits_under (limit : Nat) (key : String) (step : Step) :
    (step.under key).fits limit = step.fits limit := by
  cases step <;> rfl

theorem written_map_under (key : String) (steps : List Step) :
    written (steps.map (Step.under key)) = (written steps).map fun w => (key ++ w.1, w.2) := by
  rw [written, written, List.filterMap_map, List.map_filterMap]
  congr 1
  funext step
  cases step <;> rfl

theorem stepsWithin_map_under (limit : Nat) (key : String) (steps : List Step) :
    stepsWithin limit (steps.map (Step.under key))
      = (stepsWithin limit steps).map (Step.under key) := by
  rw [stepsWithin, stepsWithin, List.takeWhile_map]
  congr 2
  funext step
  exact fits_under limit key step

theorem visited_map_under (key : String) (steps : List Step) :
    visited (steps.map (Step.under key)) = (visited steps).map fun c => (key ++ c.1, c.2) := by
  rw [visited, visited, List.filterMap_map, List.map_filterMap]
  congr 1
  funext step
  cases step <;> rfl

theorem firstBelow?_map_under (limit : Nat) (key : String) (steps : List Step) :
    firstBelow? limit (steps.map (Step.under key))
      = (firstBelow? limit steps).map fun c => (key ++ c.1, c.2) := by
  rw [firstBelow?, firstBelow?, visited_map_under, List.find?_map]
  rfl

theorem marked_of_mem_written {join : ScopeJoin} {steps : List Step}
    (h : ∀ step ∈ steps, step.IsTail join) : ∀ w ∈ written steps, join.Marked w.1 := by
  intro w hw
  obtain ⟨step, hstep, hpair⟩ := List.mem_filterMap.1 hw
  have htail := h step hstep
  cases step with
  | write tail value =>
    cases hpair
    exact htail
  | custom _ _ | enter _ _ | leave | refuse _ => cases hpair

theorem isTail_of_firstBelow? {join : ScopeJoin} {limit : Nat} {steps : List Step}
    (h : ∀ step ∈ steps, step.IsTail join) {c : String × Nat}
    (hc : firstBelow? limit steps = some c) : join.IsTail c.1 := by
  obtain ⟨step, hstep, hcontainer⟩ := List.mem_filterMap.1 (List.mem_of_find?_eq_some hc)
  have htail := h step hstep
  cases step with
  | enter tail level =>
    cases hcontainer
    exact htail
  | write _ _ | custom _ _ | leave | refuse _ => cases hcontainer

/-! ## An entry at the root -/

/-- A root is within every limit, and writes nothing itself. -/
theorem written_stepsWithin_root (limit : Nat) (steps : List Step) :
    written (stepsWithin limit (.enter "" 0 :: steps ++ [.leave]))
      = written (stepsWithin limit steps) := by
  have hroot : (Step.enter "" 0).fits limit = true := decide_eq_true (Nat.zero_le limit)
  rw [List.cons_append, stepsWithin_cons_of_fits hroot, written_cons, stepsWithin,
    List.takeWhile_append]
  split
  · next h =>
    rw [written_append, stepsWithin, (List.takeWhile_prefix _).eq_of_length h]
    exact List.append_nil _
  · rfl

/-- In a map with no style of its own, a container is visited as if it stood alone. -/
theorem valueSteps_of_isContainer (join : ScopeJoin) (scope key : String) (level : Nat) :
    ∀ value : Value, value.isContainer = true →
      valueSteps join {} .slot scope key level value = inPlaceSteps join scope (level + 1) value
  | .map _, _ | .struct _, _ => by rw [valueSteps, inPlaceSteps]
  | .pointer _ value, h => by
    rw [valueSteps, inPlaceSteps]
    exact valueSteps_of_isContainer join scope key level value h

theorem entrySteps_of_isContainer (join : ScopeJoin) (key : String) {value : Value}
    (hcontainer : value.isContainer = true) (hempty : value.isEmpty = false) :
    entrySteps join {} "" 0 [(.text key, value)] = inPlaceSteps join key 1 value := by
  have hkey : join.join "" ((Value.text key).render {}) = key := by simp [Value.render]
  rw [entrySteps, entrySteps, hkey, if_neg (by simp [hempty]), List.append_nil,
    valueSteps_of_isContainer join key key 0 value hcontainer]

end Encoding

namespace Value

/-- A map of one entry. -/
def entry (key : String) (value : Value) : Value :=
  .map [(.text key, value)]

/-- The pairs that a walk without encoders writes, in order, up to where the limit ends it. -/
def writes (config : Config) (value : Value) : List (String × String) :=
  Encoding.written
    (Encoding.stepsWithin config.maxDepth (Encoding.rootSteps config.scopeJoin value))

end Value

open Encoding

/--
**A map or struct writes in the scope of its entry alone, and the same under every key.** Let it
hold no encoder and no sequence that is read in pairs. There are writes and perhaps a failure, none
of which depend on the key, such that an entry with a key writes just these, in this order, and ends
with that failure, each with the key in front. What stands behind the key begins with a mark; only
an error can be at the key itself.
-/
theorem Value.encodeInto_entry_uniform (config : Config) (value : Value)
    (hcontainer : value.isContainer = true) (hempty : value.isEmpty = false)
    (hplain : value.encoders = []) (hpairs : value.readsPairs {} .slot = false) :
    ∃ (tails : List (String × String)) (failure : Option String),
      (∀ w ∈ tails, config.scopeJoin.Marked w.1) ∧
      (∀ tail ∈ failure, config.scopeJoin.IsTail tail) ∧
      ∀ key, key ≠ "" →
        (entry key value).writes config = tails.map (fun w => (key ++ w.1, w.2)) ∧
        ∀ p, (entry key value).encodeInto config p
          = (failure.elim (.ok ()) fun tail => .error (.depthLimit (key ++ tail) config.maxDepth),
              p.addPairs (tails.map fun w => (key ++ w.1, w.2))) := by
  have hroot : config.scopeJoin.IsTail "" := .inl rfl
  obtain ⟨steps, hsteps, hkeys⟩ := uniform_inPlaceSteps config.scopeJoin hroot 1 value hpairs
  have hwithin : ∀ step ∈ stepsWithin config.maxDepth steps, step.IsTail config.scopeJoin :=
    fun step hstep => hsteps step ((List.takeWhile_prefix _).subset hstep)
  refine ⟨written (stepsWithin config.maxDepth steps),
    (firstBelow? config.maxDepth steps).map (·.1), marked_of_mem_written hwithin, ?_, ?_⟩
  · intro tail htail
    obtain ⟨c, hc, rfl⟩ := Option.map_eq_some_iff.1 htail
    exact isTail_of_firstBelow? hsteps hc
  · intro key hkey
    have hkey := hkeys key hkey
    simp only [String.append_empty] at hkey
    have hentry := entrySteps_of_isContainer config.scopeJoin key hcontainer hempty
    have hplain : ∀ step ∈ steps.map (Step.under key), step.Within [] := by
      rw [← hkey]
      exact within_inPlaceSteps config.scopeJoin key 1 value (List.subset_nil.2 hplain)
    constructor
    · rw [writes, entry, rootSteps, inPlaceSteps, written_stepsWithin_root, hentry, hkey,
        stepsWithin_map_under, written_map_under]
    · intro p
      rw [entry, encodeInto_map, hentry, hkey, outcome_eq_stepsWithin _ hplain,
        stepsWithin_map_under, written_map_under, firstBelow?_map_under]
      cases firstBelow? config.maxDepth steps <;> rfl

/-- An inlined map below the limit, behind numbered elements. -/
theorem Value.encodeInto_entry_uniform_inline :
    let value := Value.struct [
      ({ name := "a", tag := ",numbered" }, .seq [.text "x", .text "y"]),
      ({ name := "b", tag := ",inline" }, .map [(.text "c", .text "z")])]
    let config : Config := { maxDepth := 1 }
    value.isContainer = true ∧ value.isEmpty = false ∧ value.encoders = [] ∧
      value.readsPairs {} .slot = false ∧
      (∃ (tails : List (String × String)) (failure : Option String),
        (∀ w ∈ tails, config.scopeJoin.Marked w.1) ∧
        (∀ tail ∈ failure, config.scopeJoin.IsTail tail) ∧
        ∀ key, key ≠ "" →
          (entry key value).writes config = tails.map (fun w => (key ++ w.1, w.2)) ∧
          ∀ p, (entry key value).encodeInto config p
            = (failure.elim (.ok ()) fun tail => .error (.depthLimit (key ++ tail) config.maxDepth),
                p.addPairs (tails.map fun w => (key ++ w.1, w.2)))) ∧
      (entry "k" value).encodeInto config Params.empty
        = (.error (.depthLimit "k" 1), Params.ofPairs [("k[a]0", "x"), ("k[a]1", "y")]) := by
  intro value config
  exact ⟨rfl, rfl, rfl, by rfl, encodeInto_entry_uniform config value rfl rfl rfl (by rfl), by rfl⟩

end UrlQuery
