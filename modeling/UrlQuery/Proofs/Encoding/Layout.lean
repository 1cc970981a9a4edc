import UrlQuery.Proofs.Encoding.Leaves
import UrlQuery.Proofs.Text.Digits

/-!
# Sequences that are laid out

A sequence of scalars in a field makes the entries that its layout says (`SeqLayout.laidOut`): one
key with all texts in their order, or a key for each text. Keys that bear a number are told apart by
it (`SeqLayout.eq_of_covers_elementKey`), although one may begin another, as `k1` begins `k10`: what
may go on behind the number is no digit.

So no text is lost, and the sequence can be read back from the parameters alone, whose keys are in
the order of their characters and not in that of the elements (`Value.encode_laidOut`).
-/

namespace UrlQuery

namespace Value

/-! ## Sequences in fields -/

/-- The elements of the sequence behind all pointers. -/
def items? : Value → Option (List Value)
  | seq items => some items
  | pointer _ value => value.items?
  | _ => none

variable {items : List Value}

theorem isStruct_of_items? : ∀ {value : Value}, value.items? = some items → value.isStruct = false
  | .seq _, _ => rfl
  | .pointer _ value, h => @isStruct_of_items? value h

/-- A sequence that counts as empty has no elements. -/
theorem eq_nil_of_isEmpty :
    ∀ {value : Value}, value.items? = some items → value.isEmpty = true → items = []
  | .seq _, h, hempty => by
    obtain rfl := Option.some.inj h
    exact List.isEmpty_iff.1 hempty
  | .pointer .reference value, h, hempty => @eq_nil_of_isEmpty value h hempty
  | .pointer .present _, _, hempty | .pointer .boxed _, _, hempty
  | .pointer .shared _, _, hempty => absurd hempty nofun

end Value

namespace Encoding

variable {items : List Value}

/-- A sequence is laid out under its key, and opens no scope. -/
theorem valueSteps_of_items? (join : ScopeJoin) (style : Style) (scope key : String)
    (level : Nat) :
    ∀ {value : Value}, value.items? = some items →
      valueSteps join style .slot scope key level value
        = valueSteps join style .slot key key level (.seq items)
  | .seq _, h => by
    obtain rfl := Option.some.inj h
    simp only [valueSteps]
  | .pointer _ value, h => by
    show valueSteps join style .slot scope key level value = _
    exact valueSteps_of_items? join style scope key level h

/-- A field that takes part lays out its sequence; one that is left out has nothing to lay out. -/
theorem fieldSteps_of_items? (join : ScopeJoin) (scope : String) (level : Nat) {field : Field}
    {value : Value} (hskipped : field.rules.skipped = false)
    (hitems : value.items? = some items) :
    fieldSteps join scope level [(field, value)]
      = valueSteps join field.rules.style .slot (join.join scope field.queryName)
          (join.join scope field.queryName) level (.seq items) := by
  have hpromotes : field.promotes value = false :=
    Field.promotes_of_not_isStruct (Value.isStruct_of_items? hitems)
  cases homit : field.rules.omitEmpty && value.isEmpty with
  | false =>
    rw [fieldSteps_of_visited join scope level hskipped hpromotes homit,
      valueSteps_of_items? join _ _ _ level hitems]
  | true =>
    obtain rfl := Value.eq_nil_of_isEmpty hitems (Bool.and_eq_true_iff.1 homit).2
    rw [fieldSteps_of_passed join scope level (by simp [homit]), valueSteps]
    split <;> simp [elementSteps]

/-- A root struct of one field that holds a sequence lays it out under the name of the field. -/
theorem encodeInto_of_items? (config : Config) {field : Field} {value : Value}
    (hskipped : field.rules.skipped = false) (hitems : value.items? = some items) (p : Params) :
    (Value.struct [(field, value)]).encodeInto config p
      = outcome config.maxDepth (valueSteps config.scopeJoin field.rules.style .slot
          field.queryName field.queryName 0 (.seq items)) p := by
  rw [encodeInto_struct_singleton config field (Value.isStruct_of_items? hitems),
    fieldSteps_of_items? _ _ _ hskipped hitems, ScopeJoin.join_empty]

end Encoding

/-! ## The keys of elements -/

/-- Each element has a key of its own, which bears its number. -/
def SeqLayout.isKeyed : SeqLayout → Bool
  | numbered | indexed => true
  | joined _ | brackets | repeated => false

namespace SeqLayout

variable {layout : SeqLayout} {i j : Nat}

/--
**Keys at or under the keys of two elements tell the elements apart.** The digits of the number end
where the key of the element does, as a bracket or the mark of a scope comes next.
-/
theorem eq_of_covers_elementKey (h : layout.isKeyed = true) {join : ScopeJoin}
    {key inner : String} (hi : join.Covers (layout.elementKey key i) inner)
    (hj : join.Covers (layout.elementKey key j) inner) : i = j := by
  obtain ⟨tail, hinner, htail⟩ := hi
  obtain ⟨tail', hinner', htail'⟩ := hj
  rw [hinner] at hinner'
  have hdigits : (toString i).toList = (toString j).toList := by
    cases layout with
    | numbered =>
      simp only [elementKey, String.toList_append, List.append_assoc,
        List.append_cancel_left_eq] at hinner'
      have hmark : join.mark.isDigit = false := by cases join <;> rfl
      exact ScopeJoin.eq_of_append_eq (notMem_natDigits hmark i) (notMem_natDigits hmark j)
        htail htail' hinner'
    | indexed =>
      simp only [elementKey, String.toList_append, List.append_assoc,
        List.append_cancel_left_eq] at hinner'
      have hclose : ']'.isDigit = false := rfl
      exact ScopeJoin.eq_of_append_eq (notMem_natDigits hclose i) (notMem_natDigits hclose j)
        (by simp) (by simp) hinner'
    | joined _ | brackets | repeated => cases h
  exact natDigits_injective (String.toList_injective hdigits)

theorem elementKey_inj (h : layout.isKeyed = true) {key : String}
    (heq : layout.elementKey key i = layout.elementKey key j) : i = j := by
  have hcovers := ScopeJoin.Covers.refl .brackets (layout.elementKey key j)
  exact eq_of_covers_elementKey h (heq ▸ hcovers) hcovers

/-! ## Entries of a sequence -/

/-- The entries that hold the texts of a sequence under a key; none, if there are no texts. -/
def laidOut (layout : SeqLayout) (key : String) (texts : List String) : List Entry :=
  if texts.isEmpty then []
  else
    match layout with
    | joined separator => [(key, [String.intercalate separator texts])]
    | brackets => [(key ++ "[]", texts)]
    | numbered => texts.mapIdx fun index text => (key ++ toString index, [text])
    | indexed => texts.mapIdx fun index text => (key ++ "[" ++ toString index ++ "]", [text])
    | repeated => [(key, texts)]

/--
The texts of a sequence, read from parameters that hold nothing else: element by element, as many
as there are keys.
-/
def readBack (layout : SeqLayout) (key : String) (p : Params) : List String :=
  (List.range p.size).flatMap fun index => p.getAll (layout.elementKey key index)

theorem laidOut_of_isKeyed (h : layout.isKeyed = true) (key : String) (texts : List String) :
    layout.laidOut key texts
      = texts.mapIdx fun index text => (layout.elementKey key index, [text]) := by
  cases texts with
  | nil => rfl
  | cons text rest =>
    cases layout with
    | numbered | indexed => rfl
    | joined _ | brackets | repeated => cases h

/-- Where elements share a key, it is the same for all. -/
theorem laidOut_of_not_isKeyed (h : layout.isKeyed = false)
    (hjoined : ∀ separator, layout ≠ joined separator) (key : String) {texts : List String}
    (hne : texts ≠ []) : layout.laidOut key texts = [(layout.elementKey key 0, texts)] := by
  have hempty : texts.isEmpty = false := List.isEmpty_eq_false_iff.2 hne
  cases layout with
  | numbered | indexed => cases h
  | joined separator => exact absurd rfl (hjoined separator)
  | brackets | repeated => simp [laidOut, hempty, elementKey]

theorem elementKey_of_not_isKeyed (h : layout.isKeyed = false) (key : String) (index : Nat) :
    layout.elementKey key index = layout.elementKey key 0 := by
  cases layout with
  | numbered | indexed => cases h
  | joined _ | brackets | repeated => rfl

/-- Elements, each under its key, make the entries of the layout. -/
theorem entries_perm_laidOut (hjoined : ∀ separator, layout ≠ joined separator) (key : String)
    (texts : List String) :
    (Params.ofPairs (texts.mapIdx fun index text =>
      (layout.elementKey key index, text))).entries.Perm (layout.laidOut key texts) := by
  cases hkeyed : layout.isKeyed with
  | true =>
    have hdistinct : ((texts.mapIdx fun index text =>
        (layout.elementKey key index, text)).map (·.1)).Nodup := by
      refine List.pairwise_iff_getElem.2 fun i j _ _ hlt heq => ?_
      simp only [List.getElem_map, List.getElem_mapIdx] at heq
      exact absurd (elementKey_inj hkeyed heq) (Nat.ne_of_lt hlt)
    have hentries : (texts.mapIdx fun index text => (layout.elementKey key index, text)).map
        (fun kv => (kv.1, [kv.2])) = layout.laidOut key texts := by
      rw [laidOut_of_isKeyed hkeyed]
      apply List.ext_getElem <;> simp
    exact hentries ▸ Params.entries_ofPairs_perm hdistinct
  | false =>
    by_cases hne : texts = []
    · subst hne
      exact .refl _
    · have hpairs : (texts.mapIdx fun index text => (layout.elementKey key index, text))
          = texts.map fun text => (layout.elementKey key 0, text) := by
        simp only [elementKey_of_not_isKeyed hkeyed key]
        apply List.ext_getElem <;> simp
      rw [hpairs, Params.entries_ofPairs_map _ hne, laidOut_of_not_isKeyed hkeyed hjoined key hne]

/-- **Nothing is lost**: from such entries the texts can be read in their order. -/
theorem readBack_eq_of_perm (hjoined : ∀ separator, layout ≠ joined separator) {key : String}
    {texts : List String} {p : Params} (h : p.entries.Perm (layout.laidOut key texts)) :
    layout.readBack key p = texts := by
  have hmem : ∀ {k vs}, (k, vs) ∈ layout.laidOut key texts → p.getAll k = vs := by
    intro k vs hkv
    rw [Params.getAll, Params.find?_of_mem (h.mem_iff.2 hkv), Option.getD_some]
  have hsize : p.size = (layout.laidOut key texts).length := h.length_eq
  rw [readBack, hsize]
  cases hkeyed : layout.isKeyed with
  | true =>
    rw [laidOut_of_isKeyed hkeyed] at hmem ⊢
    rw [List.length_mapIdx]
    have hvalues : (List.range texts.length).map
        (fun index => p.getAll (layout.elementKey key index)) = texts.map fun text => [text] := by
      apply List.ext_getElem
      · simp
      · intro i hi hi'
        rw [List.length_map] at hi'
        rw [List.getElem_map, List.getElem_map, List.getElem_range]
        exact hmem (List.mem_mapIdx.2 ⟨i, hi', rfl⟩)
    rw [List.flatMap_def, hvalues, ← List.flatMap_def, List.flatMap_singleton']
  | false =>
    by_cases hne : texts = []
    · subst hne
      rfl
    · rw [laidOut_of_not_isKeyed hkeyed hjoined key hne] at hmem ⊢
      simpa using hmem (List.mem_singleton_self _)

end SeqLayout

open Encoding

/--
**A layout that does not join loses nothing.** Let a field hold a sequence of scalars. If it takes
part, and its layout joins nothing, the struct of this one field is encoded.

* There is one key with all texts in their order, which is that of the field, or has brackets
  behind it; or there is a key for each element, with its number behind that of the field, which
  holds the text of the element alone. Without elements there is nothing.
* Keys that bear a number are as many as the elements.
* The texts can be read back in their order, empty ones as any other.
-/
theorem Value.encode_laidOut (config : Config) {field : Field} {value : Value}
    {items : List Value} (hskipped : field.rules.skipped = false)
    (hitems : value.items? = some items) (hscalar : ∀ item ∈ items, item.isScalar = true)
    (hjoined : ∀ separator, field.rules.seq ≠ .joined separator) :
    ∃ p, (Value.struct [(field, value)]).encode config = .ok p ∧
      p.entries.Perm (field.rules.seq.laidOut field.queryName
        (items.map (·.render field.rules.render))) ∧
      (field.rules.seq.isKeyed = true → p.size = items.length) ∧
      field.rules.seq.readBack field.queryName p = items.map (·.render field.rules.render) := by
  have hleaf : (Value.seq items).isLeaf = true := List.all_eq_true.2 hscalar
  have hpairs : field.rules.style.leafPairs field.queryName (.seq items)
      = (items.map (·.render field.rules.render)).mapIdx fun index text =>
          (field.rules.seq.elementKey field.queryName index, text) := by
    rw [Style.leafPairs]
    split
    · next separator hlayout => exact absurd hlayout (hjoined separator)
    · rfl
  have hperm := SeqLayout.entries_perm_laidOut hjoined field.queryName
    (items.map (·.render field.rules.render))
  rw [← hpairs] at hperm
  refine ⟨Params.ofPairs (field.rules.style.leafPairs field.queryName (.seq items)),
    encode_eq_ok_iff.2 ?_, hperm, fun hkeyed => ?_, SeqLayout.readBack_eq_of_perm hjoined hperm⟩
  · rw [encodeInto_of_items? config hskipped hitems, outcome_valueSteps_of_isLeaf _ _ _ _ _ _ _
      hleaf]
    rfl
  · have hsize := hperm.length_eq
    rw [SeqLayout.laidOut_of_isKeyed hkeyed, List.length_mapIdx, List.length_map] at hsize
    exact hsize

/-- Eleven numbered elements behind a pointer: the key of the last stands before that of the third. -/
theorem Value.encode_laidOut_numbered :
    let field : Field := { name := "key", tag := "k,int,numbered,omitempty" }
    let items := .text "" :: .bool true :: .absent none :: (List.range 8).map (.uint ·)
    let value := Value.pointer .boxed (.seq items)
    field.rules.skipped = false ∧ value.items? = some items ∧
      (∀ item ∈ items, item.isScalar = true) ∧
      (∀ separator, field.rules.seq ≠ .joined separator) ∧
      (∃ p, (Value.struct [(field, value)]).encode {} = .ok p ∧
        p.entries.Perm (field.rules.seq.laidOut field.queryName
          (items.map (·.render field.rules.render))) ∧
        (field.rules.seq.isKeyed = true → p.size = items.length) ∧
        field.rules.seq.readBack field.queryName p = items.map (·.render field.rules.render)) ∧
      (Value.struct [(field, value)]).encode {} = .ok (Params.ofLists [("k0", [""]), ("k1", ["1"]),
        ("k10", ["7"]), ("k2", [""]), ("k3", ["0"]), ("k4", ["1"]), ("k5", ["2"]), ("k6", ["3"]),
        ("k7", ["4"]), ("k8", ["5"]), ("k9", ["6"])]) := by
  intro field items value
  have hskipped : field.rules.skipped = false := by decide
  have hseq : field.rules.seq = .numbered := by decide
  have hscalar : ∀ item ∈ items, item.isScalar = true := List.all_eq_true.1 (by rfl)
  have hjoined : ∀ separator, field.rules.seq ≠ .joined separator := by
    rw [hseq]
    exact nofun
  refine ⟨hskipped, rfl, hscalar, hjoined,
    Value.encode_laidOut {} hskipped rfl hscalar hjoined, ?_⟩
  simp only [field, items, value]
  rfl

end UrlQuery
