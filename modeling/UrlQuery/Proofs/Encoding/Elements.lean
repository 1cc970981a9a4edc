import Mathlib.Data.List.Forall2
import UrlQuery.Proofs.Encoding.Layout
import UrlQuery.Proofs.Encoding.Scope

/-!
# Elements under numbered keys

Where each element of a sequence has a key of its own, elements never write under one key, whatever
they hold (`Value.encodeInto_elements`). A scalar is written at its key. A map or a struct writes in
the scope of its key, just what it would write there on its own; so the numbers, by which the keys
differ, tell apart all that is written (`SeqLayout.eq_of_covers_elementKey`).
-/

namespace UrlQuery

/-! ## Keys of elements as scopes -/

theorem ScopeJoin.IsTail.covers {join : ScopeJoin} {tail : String} (h : join.IsTail tail)
    (key : String) : join.Covers key (key ++ tail) := by
  refine ⟨tail.toList, String.toList_append, fun c hc => ?_⟩
  rcases h with rfl | hmarked
  · cases hc
  · exact (Option.some.inj (hmarked.symm.trans hc)).symm

theorem SeqLayout.elementKey_ne_empty {layout : SeqLayout} (h : layout.isKeyed = true)
    (key : String) (index : Nat) : layout.elementKey key index ≠ "" := by
  cases layout with
  | numbered =>
    intro hempty
    exact natDigits_ne_empty index (String.append_eq_empty_iff.1 hempty).2
  | indexed => simp [elementKey]
  | joined _ | brackets | repeated => cases h

/-- The pairs of each element, with its key in front of theirs. -/
def SeqLayout.underKeys (layout : SeqLayout) (key : String)
    (parts : List (List (String × String))) : List (List (String × String)) :=
  parts.mapIdx fun index tails =>
    tails.map fun w => (layout.elementKey key index ++ w.1, w.2)

namespace Encoding

open Value (itemEncoders itemsReadPairs)

/-! ## What an element does -/

/-- Without encoders, and where no sequence is read in pairs, an element is a text or a scope. -/
theorem isScalar_or_isContainer (style : Style) :
    ∀ {item : Value}, item.encoders = [] → item.readsPairs style .element = false →
      item.isScalar = true ∨ item.isContainer = true
  | .pointer _ value, hplain, hpairs => by
    rw [Value.readsPairs] at hpairs
    show value.isScalar = true ∨ value.isContainer = true
    exact isScalar_or_isContainer style hplain hpairs
  | .map _, _, _ | .struct _, _, _ => .inr rfl
  | .absent none, _, _ | .bool _, _, _ | .int _, _, _ | .uint _, _, _ | .single _, _, _
  | .double _, _, _ | .char _, _, _ | .text _, _, _ | .bytes _, _, _ | .time _, _, _ => .inl rfl
  | .seq _, _, hpairs => by simp [Value.readsPairs] at hpairs
  | .absent (some _), hplain, _ | .custom _ _, hplain, _ => by simp [Value.encoders] at hplain

/-- A map or struct under a key writes in the scope of the key, in whatever place it stands. -/
theorem uniform_valueSteps_of_isContainer (join : ScopeJoin) (style : Style) (place : Place)
    (level : Nat) :
    ∀ {value : Value}, value.isContainer = true → value.readsPairs style place = false →
      Uniform join fun key => valueSteps join style place key key level value
  | .pointer _ value, h, hpairs => by
    rw [Value.isContainer] at h
    rw [Value.readsPairs] at hpairs
    refine (uniform_valueSteps_of_isContainer join style place level h hpairs).congr
      fun key _ => ?_
    rw [valueSteps]
  | .map entries, _, hpairs => by
    rw [Value.readsPairs] at hpairs
    have htail : join.IsTail "" := .inl rfl
    refine ((uniform_entrySteps join style htail (level + 1) entries hpairs).enclosed htail
      (level + 1)).congr fun key _ => ?_
    rw [valueSteps, String.append_empty]
  | .struct fields, _, hpairs => by
    rw [Value.readsPairs] at hpairs
    have htail : join.IsTail "" := .inl rfl
    refine (((uniform_fieldSteps join htail (level + 1) fields hpairs).append
      (uniform_promotedSteps join htail (level + 1) fields hpairs)).enclosed htail
      (level + 1)).congr fun key _ => ?_
    rw [valueSteps, String.append_empty]

/-- Only a sequence is visited in one way in a field, and in another one as an element. -/
theorem valueSteps_slot (join : ScopeJoin) (style : Style) (scope key : String) (level : Nat) :
    ∀ {value : Value}, value.readsPairs style .element = false →
      valueSteps join style .slot scope key level value
        = valueSteps join style .element scope key level value
  | .pointer _ value, h => by
    rw [Value.readsPairs] at h
    rw [valueSteps, valueSteps]
    exact valueSteps_slot join style scope key level h
  | .seq _, h => by simp [Value.readsPairs] at h
  | .absent none, _ | .absent (some _), _ | .bool _, _ | .int _, _ | .uint _, _ | .single _, _
  | .double _, _ | .char _, _ | .text _, _ | .bytes _, _ | .time _, _ | .map _, _ | .struct _, _
  | .custom _ _, _ => by simp only [valueSteps]

/--
Under every key that is not empty, an element of a style does these steps, with the key in front of
theirs: it is a scalar, and they write its text at the key itself, or a map or struct, and they
write in the scope of the key.
-/
structure ElementDoes (join : ScopeJoin) (style : Style) (level : Nat) (item : Value)
    (steps : List Step) : Prop where
  encoders_eq : item.encoders = []
  readsPairs_eq : item.readsPairs style .element = false
  shape : (item.isScalar = true ∧ steps = [.write "" (item.render style.options)]) ∨
    (item.isContainer = true ∧ ∀ step ∈ steps, step.IsTail join)
  steps_eq : ∀ key, key ≠ "" →
    valueSteps join style .element key key level item = steps.map (Step.under key)

theorem exists_elementDoes (join : ScopeJoin) (style : Style) (level : Nat) {item : Value}
    (hplain : item.encoders = []) (hpairs : item.readsPairs style .element = false) :
    ∃ steps, ElementDoes join style level item steps := by
  rcases isScalar_or_isContainer style hplain hpairs with hscalar | hcontainer
  · refine ⟨_, hplain, hpairs, .inl ⟨hscalar, rfl⟩, fun key _ => ?_⟩
    rw [valueSteps_of_isScalar join style .element key key level hscalar, List.map_singleton,
      Step.under, String.append_empty]
  · obtain ⟨steps, htails, hsteps⟩ :=
      uniform_valueSteps_of_isContainer join style .element level hcontainer hpairs
    exact ⟨steps, hplain, hpairs, .inr ⟨hcontainer, htails⟩, hsteps⟩

theorem exists_elementsDo (join : ScopeJoin) (style : Style) (level : Nat) :
    ∀ {items : List Value}, itemEncoders items = [] → itemsReadPairs style items = false →
      ∃ parts, List.Forall₂ (ElementDoes join style level) items parts
  | [], _, _ => ⟨[], .nil⟩
  | item :: rest, hplain, hpairs => by
    rw [itemEncoders, List.append_eq_nil_iff] at hplain
    rw [itemsReadPairs, Bool.or_eq_false_iff] at hpairs
    obtain ⟨steps, hsteps⟩ := exists_elementDoes join style level hplain.1 hpairs.1
    obtain ⟨parts, hparts⟩ := exists_elementsDo join style level hplain.2 hpairs.2
    exact ⟨steps :: parts, .cons hsteps hparts⟩

/-- Elements do their steps one after the other, each under its key. By induction as the index goes
on. -/
theorem elementSteps_of_elementsDo {join : ScopeJoin} {style : Style}
    (hkeyed : style.layout.isKeyed = true) (key : String) (level : Nat) {items : List Value}
    {parts : List (List Step)} (h : List.Forall₂ (ElementDoes join style level) items parts)
    (index : Nat) :
    elementSteps join style key level index items
      = (parts.mapIdx fun i steps =>
          steps.map (Step.under (style.layout.elementKey key (index + i)))).flatten := by
  induction h generalizing index with
  | nil => rw [elementSteps, List.mapIdx_nil, List.flatten_nil]
  | cons hitem _ ih =>
    rw [elementSteps, hitem.steps_eq _ (SeqLayout.elementKey_ne_empty hkeyed key index),
      ih (index + 1), List.mapIdx_cons, List.flatten_cons]
    simp only [Nat.add_assoc, Nat.add_comm 1, Nat.add_zero]

/-! ## What elements write -/

/-- A walk without encoders that visits nothing below the limit writes its pairs. -/
theorem outcome_of_visited_le {limit : Nat} {steps : List Step}
    (hplain : ∀ step ∈ steps, step.Within []) (hlevels : ∀ c ∈ visited steps, c.2 ≤ limit)
    (p : Params) : outcome limit steps p = (.ok (), p.addPairs (written steps)) := by
  rw [outcome_limit limit hplain p, firstBelow?_eq_none_iff.2 hlevels]

theorem ElementDoes.isTail {join : ScopeJoin} {style : Style} {level : Nat} {item : Value}
    {steps : List Step} (h : ElementDoes join style level item steps) :
    ∀ w ∈ written steps, join.IsTail w.1 := by
  rcases h.shape with ⟨-, rfl⟩ | ⟨-, htails⟩
  · exact List.forall_mem_singleton.2 (.inl rfl)
  · exact fun w hw => .inr (marked_of_mem_written htails w hw)

/-- No key at or under that of an element is one at or under that of another. -/
theorem pairwise_underKeys {join : ScopeJoin} {layout : SeqLayout}
    (hkeyed : layout.isKeyed = true) (key : String) {parts : List (List (String × String))}
    (h : ∀ tails ∈ parts, ∀ w ∈ tails, join.IsTail w.1) :
    (layout.underKeys key parts).Pairwise fun a b => ∀ x ∈ a, ∀ y ∈ b, x.1 ≠ y.1 := by
  refine List.pairwise_iff_getElem.2 fun i j hi hj hlt x hx y hy heq => ?_
  simp only [SeqLayout.underKeys, List.getElem_mapIdx] at hx hy
  obtain ⟨v, hv, rfl⟩ := List.mem_map.1 hx
  obtain ⟨w, hw, rfl⟩ := List.mem_map.1 hy
  have hkeys : layout.elementKey key i ++ v.1 = layout.elementKey key j ++ w.1 := heq
  have hcovers := (h _ (List.getElem_mem _) v hv).covers (layout.elementKey key i)
  have hcovers' := (h _ (List.getElem_mem _) w hw).covers (layout.elementKey key j)
  rw [← hkeys] at hcovers'
  exact absurd (SeqLayout.eq_of_covers_elementKey hkeyed hcovers hcovers') (Nat.ne_of_lt hlt)

theorem written_underKeys (layout : SeqLayout) (key : String) (parts : List (List Step)) :
    written (parts.mapIdx fun i steps =>
        steps.map (Step.under (layout.elementKey key i))).flatten
      = (layout.underKeys key (parts.map written)).flatten := by
  rw [written, List.filterMap_flatten, SeqLayout.underKeys]
  congr 1
  apply List.ext_getElem
  · simp
  · intro i _ _
    simp only [List.getElem_map, List.getElem_mapIdx]
    exact written_map_under _ _

/-- The level of a container is the same under every key. -/
theorem level_le_of_underKeys {layout : SeqLayout} {key : String} {limit : Nat}
    {parts : List (List Step)}
    (h : ∀ c ∈ visited (parts.mapIdx fun i steps =>
      steps.map (Step.under (layout.elementKey key i))).flatten, c.2 ≤ limit) :
    ∀ steps ∈ parts, ∀ c ∈ visited steps, c.2 ≤ limit := by
  intro steps hsteps c hc
  obtain ⟨i, hi, rfl⟩ := List.getElem_of_mem hsteps
  refine h (layout.elementKey key i ++ c.1, c.2) ?_
  rw [visited, List.filterMap_flatten, List.mem_flatten]
  refine ⟨visited (parts[i].map (Step.under (layout.elementKey key i))),
    List.mem_map.2 ⟨_, List.mem_mapIdx.2 ⟨i, hi, rfl⟩, rfl⟩, ?_⟩
  rw [visited_map_under]
  exact List.mem_map.2 ⟨c, hc, rfl⟩

end Encoding

open Encoding

/-- The field writes its value, whatever it is, in a style and under its own key. -/
structure Field.IsSlot (field : Field) (style : Style) : Prop where
  skipped_eq : field.rules.skipped = false
  omitEmpty_eq : field.rules.omitEmpty = false
  inline_eq : field.rules.inline = false
  embedded_eq : field.embedded = false
  style_eq : field.rules.style = style

/--
Under a key the value writes these pairs, each with the key in front: a scalar its text, at the key
itself, and a map or struct what lies in the scope of the key. So it does where a field of that key
holds it, in a struct at a level.
-/
structure Value.WritesUnder (config : Config) (style : Style) (level : Nat) (value : Value)
    (tails : List (String × String)) : Prop where
  shape : (value.isScalar = true ∧ tails = [("", value.render style.options)]) ∨
    (value.isContainer = true ∧ ∀ w ∈ tails, config.scopeJoin.Marked w.1)
  alone : ∀ field : Field, field.IsSlot style → field.queryName ≠ "" → ∀ p,
    ((visitFields config "" level [(field, value)]).run).run p
      = (.ok (), p.addPairs (tails.map fun w => (field.queryName ++ w.1, w.2)))

namespace Encoding

open Value (itemEncoders itemsReadPairs)

theorem ElementDoes.writesUnder {config : Config} {style : Style} {level : Nat} {item : Value}
    {steps : List Step} (h : ElementDoes config.scopeJoin style level item steps)
    (hlevels : ∀ c ∈ visited steps, c.2 ≤ config.maxDepth) :
    item.WritesUnder config style level (written steps) := by
  constructor
  · rcases h.shape with ⟨hscalar, rfl⟩ | ⟨hcontainer, htails⟩
    · exact .inl ⟨hscalar, rfl⟩
    · exact .inr ⟨hcontainer, marked_of_mem_written htails⟩
  · intro field hfield hname p
    have hsteps : fieldSteps config.scopeJoin "" level [(field, item)]
        = steps.map (Step.under field.queryName) := by
      rw [fieldSteps_of_visited config.scopeJoin "" level hfield.skipped_eq
          (by rw [Field.promotes, hfield.embedded_eq]; rfl) (by rw [hfield.omitEmpty_eq]; rfl),
        hfield.inline_eq, hfield.style_eq, ScopeJoin.join_empty]
      exact (valueSteps_slot _ _ _ _ _ h.readsPairs_eq).trans (h.steps_eq _ hname)
    have hplain : ∀ step ∈ steps.map (Step.under field.queryName), step.Within [] := by
      rw [← hsteps]
      refine within_fieldSteps config.scopeJoin "" level [(field, item)] ?_
      simp [Value.fieldEncoders, h.encoders_eq]
    have hvisited : ∀ c ∈ visited (steps.map (Step.under field.queryName)),
        c.2 ≤ config.maxDepth := by
      rw [visited_map_under, List.forall_mem_map]
      exact hlevels
    rw [run_visitFields, hsteps, outcome_of_visited_le hplain hvisited, written_map_under]

/-- Where elements have keys of their own, a sequence in a field is visited element by element. -/
theorem valueSteps_of_isKeyed (join : ScopeJoin) {style : Style}
    (hkeyed : style.layout.isKeyed = true) (scope key : String) (level : Nat)
    (items : List Value) :
    valueSteps join style .slot scope key level (.seq items)
      = elementSteps join style key level 0 items := by
  cases hlayout : style.layout with
  | numbered | indexed => simp only [valueSteps, hlayout]
  | joined _ | brackets | repeated =>
    rw [hlayout] at hkeyed
    cases hkeyed

theorem writesUnder_of_elementsDo {config : Config} {style : Style} {level : Nat}
    {items : List Value} {parts : List (List Step)}
    (h : List.Forall₂ (ElementDoes config.scopeJoin style level) items parts)
    (hlevels : ∀ steps ∈ parts, ∀ c ∈ visited steps, c.2 ≤ config.maxDepth) :
    List.Forall₂ (Value.WritesUnder config style level) items (parts.map written) := by
  induction h with
  | nil => exact .nil
  | cons hitem _ ih =>
    obtain ⟨hsteps, hrest⟩ := List.forall_mem_cons.1 hlevels
    exact .cons (hitem.writesUnder hsteps) (ih hrest)

theorem isTail_of_elementsDo {join : ScopeJoin} {style : Style} {level : Nat}
    {items : List Value} {parts : List (List Step)}
    (h : List.Forall₂ (ElementDoes join style level) items parts) :
    ∀ tails ∈ parts.map written, ∀ w ∈ tails, join.IsTail w.1 := by
  induction h with
  | nil => exact nofun
  | cons hitem _ ih => exact List.forall_mem_cons.2 ⟨hitem.isTail, ih⟩

end Encoding

/--
**Elements with numbered keys keep apart.** Let a field take part and hold a sequence, with a layout
that gives each element a key of its own. Let no encoder stand in the elements, and none of them be
or hold a sequence that is read in pairs. In any scope and at any level, if the elements visit no
container below the limit, there are pairs for each of them, such that

* under the key of the element, the pairs are just what it writes there: a scalar its text, at the
  key, and a map or struct what it writes in the scope of the key, one level down;
* no two elements have a key in common;
* the field writes the pairs of all elements in their order and nothing else, and the walk goes on
  with the fields behind it; in a root struct of this one field, that is all.
-/
theorem Value.encodeInto_elements (config : Config) {field : Field} {value : Value}
    {items : List Value} (hskipped : field.rules.skipped = false)
    (hitems : value.items? = some items) (hkeyed : field.rules.seq.isKeyed = true)
    (hplain : itemEncoders items = []) (hpairs : itemsReadPairs field.rules.style items = false)
    (scope : String) (level : Nat)
    (hlevels : ∀ c ∈ visited (elementSteps config.scopeJoin field.rules.style
      (config.scopeJoin.join scope field.queryName) level 0 items), c.2 ≤ config.maxDepth) :
    ∃ parts : List (List (String × String)),
      List.Forall₂ (WritesUnder config field.rules.style level) items parts ∧
      (field.rules.seq.underKeys (config.scopeJoin.join scope field.queryName) parts).Pairwise
        (fun a b => ∀ x ∈ a, ∀ y ∈ b, x.1 ≠ y.1) ∧
      (∀ rest p, ((visitFields config scope level ((field, value) :: rest)).run).run p
        = ((visitFields config scope level rest).run).run (p.addPairs (field.rules.seq.underKeys
            (config.scopeJoin.join scope field.queryName) parts).flatten)) ∧
      (scope = "" → level = 0 → ∀ p, (Value.struct [(field, value)]).encodeInto config p
        = (.ok (), p.addPairs
            (field.rules.seq.underKeys field.queryName parts).flatten)) := by
  obtain ⟨parts, hparts⟩ :=
    exists_elementsDo config.scopeJoin field.rules.style level hplain hpairs
  have hlayout : field.rules.style.layout.isKeyed = true := hkeyed
  have hsteps := elementSteps_of_elementsDo hlayout
    (config.scopeJoin.join scope field.queryName) level hparts 0
  simp only [Nat.zero_add] at hsteps
  have hfield : ∀ p, outcome config.maxDepth
      (fieldSteps config.scopeJoin scope level [(field, value)]) p
        = (.ok (), p.addPairs (field.rules.seq.underKeys
            (config.scopeJoin.join scope field.queryName) (parts.map written)).flatten) := by
    intro p
    have hwithin := within_elementSteps config.scopeJoin field.rules.style
      (config.scopeJoin.join scope field.queryName) level 0 items (List.subset_nil.2 hplain)
    rw [fieldSteps_of_items? _ _ _ hskipped hitems, valueSteps_of_isKeyed _ hkeyed,
      outcome_of_visited_le hwithin hlevels, hsteps, written_underKeys]
    rfl
  rw [hsteps] at hlevels
  refine ⟨parts.map written, writesUnder_of_elementsDo hparts (level_le_of_underKeys hlevels),
    pairwise_underKeys hkeyed _ (isTail_of_elementsDo hparts), fun rest p => ?_, ?_⟩
  · rw [run_visitFields, run_visitFields, ← List.singleton_append, fieldSteps_append,
      outcome_append, hfield, Outcome.andThen_ok]
  · rintro rfl rfl p
    rw [encodeInto_struct_singleton config field (isStruct_of_items? hitems), hfield,
      ScopeJoin.join_empty]

/-- Eleven elements: a map under `k1`, with a key that begins with `0`, and a text under `k10`. -/
theorem Value.encodeInto_elements_eleven :
    let field : Field := { name := "key", tag := "k,int,numbered" }
    let inner := Value.map [(.text "0", .seq [.text "a", .bool true])]
    let items := .bool true :: inner :: List.replicate 8 (.absent none) ++ [.text "b"]
    let config : Config := { maxDepth := 1, scopeJoin := .dots }
    field.rules.skipped = false ∧ (Value.seq items).items? = some items ∧
      field.rules.seq.isKeyed = true ∧ itemEncoders items = [] ∧
      itemsReadPairs field.rules.style items = false ∧
      (∀ c ∈ visited (elementSteps .dots field.rules.style (ScopeJoin.dots.join "" field.queryName)
        0 0 items), c.2 ≤ config.maxDepth) ∧
      (∃ parts : List (List (String × String)),
        List.Forall₂ (WritesUnder config field.rules.style 0) items parts ∧
        (field.rules.seq.underKeys field.queryName parts).Pairwise
          (fun a b => ∀ x ∈ a, ∀ y ∈ b, x.1 ≠ y.1) ∧
        ∀ p, (Value.struct [(field, .seq items)]).encodeInto config p
          = (.ok (), p.addPairs (field.rules.seq.underKeys field.queryName parts).flatten)) ∧
      (Value.struct [(field, .seq items)]).encodeInto config Params.empty
        = (.ok (), Params.ofLists [("k0", ["1"]), ("k1.00", ["a"]), ("k1.01", ["1"]),
            ("k10", ["b"]), ("k2", [""]), ("k3", [""]), ("k4", [""]), ("k5", [""]), ("k6", [""]),
            ("k7", [""]), ("k8", [""]), ("k9", [""])]) := by
  intro field inner items config
  have hskipped : field.rules.skipped = false := by decide
  have hkeyed : field.rules.seq.isKeyed = true := by decide
  have hstyle : field.rules.style = { options := { intBool := true }, layout := .numbered } := by
    decide
  have hpairs : itemsReadPairs field.rules.style items = false := by
    rw [hstyle]
    rfl
  have hvisited : visited (elementSteps .dots field.rules.style
      (ScopeJoin.dots.join "" field.queryName) 0 0 items) = [("k1", 1)] := by
    simp only [field, inner, items]
    rfl
  have hlevels : ∀ c ∈ visited (elementSteps .dots field.rules.style
      (ScopeJoin.dots.join "" field.queryName) 0 0 items), c.2 ≤ config.maxDepth := by
    rw [hvisited]
    decide
  have hitems : (Value.seq items).items? = some items := rfl
  obtain ⟨parts, hwrites, hapart, -, hroot⟩ :=
    encodeInto_elements config hskipped hitems hkeyed rfl hpairs "" 0 hlevels
  refine ⟨hskipped, hitems, hkeyed, rfl, hpairs, hlevels,
    ⟨parts, hwrites, hapart, hroot rfl rfl⟩, ?_⟩
  simp only [field, inner, items, config]
  rfl

end UrlQuery
