import UrlQuery.Proofs.Encoding.Keys
import UrlQuery.Proofs.Params.Valued

/-!
# The order of entries

A value is reordered by putting the entries of any of its maps into another order. The steps of its
walk are then put into another order too (`rootSteps_perm`), so if no encoder stands in the value,
whether it is encoded does not change, nor what stands under each key but for its order.

Where the keys of the value lie apart, a key gets its values from one entry alone, and the result
does not change at all (`Value.encode_reordered`).
-/

namespace UrlQuery

namespace Value

/-! ## Reordering -/

mutual

/-- The second value is the first, with the entries of each map in it put into some order. -/
inductive Reordered : Value → Value → Prop where
  | same (value : Value) : Reordered value value
  | seq {items items' : List Value} (h : ItemsReordered items items') :
    Reordered (.seq items) (.seq items')
  | map {entries inner entries' : List (Value × Value)} (h : EntriesReordered entries inner)
    (hperm : inner.Perm entries') : Reordered (.map entries) (.map entries')
  | struct {fields fields' : List (Field × Value)} (h : FieldsReordered fields fields') :
    Reordered (.struct fields) (.struct fields')
  | pointer (kind : Pointer) {value value' : Value} (h : Reordered value value') :
    Reordered (.pointer kind value) (.pointer kind value')

/-- Each element is reordered in its place. -/
inductive ItemsReordered : List Value → List Value → Prop where
  | nil : ItemsReordered [] []
  | cons {value value' : Value} {rest rest' : List Value} (hvalue : Reordered value value')
    (hrest : ItemsReordered rest rest') : ItemsReordered (value :: rest) (value' :: rest')

/-- The key and the value of each entry are reordered in their place. -/
inductive EntriesReordered : List (Value × Value) → List (Value × Value) → Prop where
  | nil : EntriesReordered [] []
  | cons {name name' value value' : Value} {rest rest' : List (Value × Value)}
    (hname : Reordered name name') (hvalue : Reordered value value')
    (hrest : EntriesReordered rest rest') :
    EntriesReordered ((name, value) :: rest) ((name', value') :: rest')

/-- The value of each field is reordered in its place. -/
inductive FieldsReordered : List (Field × Value) → List (Field × Value) → Prop where
  | nil : FieldsReordered [] []
  | cons (field : Field) {value value' : Value} {rest rest' : List (Field × Value)}
    (hvalue : Reordered value value') (hrest : FieldsReordered rest rest') :
    FieldsReordered ((field, value) :: rest) ((field, value') :: rest')

end

/-! ### What reordering keeps -/

theorem Reordered.isZero_eq : ∀ {v w : Value}, v.Reordered w → w.isZero = v.isZero
  | _, _, .same _ => rfl
  | _, _, .seq h => by cases h <;> rfl
  | _, _, .map h hperm => by
    refine hperm.isEmpty_eq.symm.trans ?_
    cases h <;> rfl
  | _, _, .struct _ => rfl
  | _, _, .pointer _ h => h.isZero_eq

mutual

theorem Reordered.render_eq (options : RenderOptions) :
    ∀ {v w : Value}, v.Reordered w → w.render options = v.render options
  | _, _, .same _ => rfl
  | _, _, .seq h => by rw [render, render, h.renderAll_eq options]
  | _, _, .map _ _ => rfl
  | _, _, .struct _ => rfl
  | _, _, .pointer _ h => h.render_eq options

theorem ItemsReordered.renderAll_eq (options : RenderOptions) :
    ∀ {items items' : List Value}, ItemsReordered items items' →
      renderAll options items' = renderAll options items
  | _, _, .nil => rfl
  | _, _, .cons hvalue hrest => by
    rw [renderAll, renderAll, hvalue.render_eq options, hrest.renderAll_eq options]

end

theorem Reordered.isEmpty_eq : ∀ {v w : Value}, v.Reordered w → w.isEmpty = v.isEmpty
  | _, _, .same _ => rfl
  | _, _, .seq h => Reordered.isZero_eq (.seq h)
  | _, _, .map h hperm => Reordered.isZero_eq (.map h hperm)
  | _, _, .struct _ => rfl
  | _, _, .pointer .reference h => h.isEmpty_eq
  | _, _, .pointer .present _ | _, _, .pointer .boxed _ | _, _, .pointer .shared _ => rfl

theorem Reordered.isStruct_eq : ∀ {v w : Value}, v.Reordered w → w.isStruct = v.isStruct
  | _, _, .same _ | _, _, .seq _ | _, _, .map _ _ | _, _, .struct _ => rfl
  | _, _, .pointer _ h => h.isStruct_eq

theorem Reordered.isContainer_eq : ∀ {v w : Value}, v.Reordered w → w.isContainer = v.isContainer
  | _, _, .same _ | _, _, .seq _ | _, _, .map _ _ | _, _, .struct _ => rfl
  | _, _, .pointer _ h => h.isContainer_eq

theorem Reordered.kind_eq : ∀ {v w : Value}, v.Reordered w → w.kind = v.kind
  | _, _, .same _ | _, _, .seq _ | _, _, .map _ _ | _, _, .struct _ => rfl
  | _, _, .pointer _ h => h.kind_eq

/-- A scalar holds no map. -/
theorem Reordered.eq_of_isScalar :
    ∀ {v w : Value}, v.Reordered w → v.isScalar = true → w = v
  | _, _, .same _, _ => rfl
  | _, _, .pointer kind h, hscalar => congrArg (Value.pointer kind) (h.eq_of_isScalar hscalar)

theorem ItemsReordered.eq_of_isScalar :
    ∀ {items items' : List Value}, ItemsReordered items items' →
      (∀ item ∈ items, item.isScalar = true) → items' = items
  | _, _, .nil, _ => rfl
  | _, _, .cons hvalue hrest, h => by
    obtain ⟨hfirst, hothers⟩ := List.forall_mem_cons.1 h
    rw [hvalue.eq_of_isScalar hfirst, hrest.eq_of_isScalar hothers]

end Value

namespace Encoding

open Value (Reordered ItemsReordered EntriesReordered FieldsReordered EntriesApart)

/-! ## The steps of a reordered value -/

/-- Entries are visited one after the other. -/
theorem entrySteps_eq_flatMap (join : ScopeJoin) (style : Style) (scope : String) (level : Nat)
    (entries : List (Value × Value)) :
    entrySteps join style scope level entries
      = entries.flatMap fun entry => entrySteps join style scope level [entry] := by
  induction entries with
  | nil => rw [entrySteps, List.flatMap_nil]
  | cons entry rest ih =>
    rw [← List.singleton_append, entrySteps_append, ih, List.flatMap_append,
      List.flatMap_singleton]

/-- What stands between entering and leaving may be put into another order. -/
theorem perm_enclosed {a b : List Step} (h : a.Perm b) (scope : String) (level : Nat) :
    (Step.enter scope level :: a ++ [Step.leave]).Perm
      (Step.enter scope level :: b ++ [Step.leave]) :=
  (h.cons _).append_right _

mutual

theorem fieldSteps_perm (join : ScopeJoin) (scope : String) (level : Nat) :
    ∀ {fields fields' : List (Field × Value)}, FieldsReordered fields fields' →
      (fieldSteps join scope level fields).Perm (fieldSteps join scope level fields')
  | _, _, .nil => .refl _
  | _, _, .cons field hvalue hrest => by
    rw [fieldSteps, fieldSteps, Field.promotes, Field.promotes, hvalue.isStruct_eq,
      hvalue.isEmpty_eq]
    refine List.Perm.append ?_ (fieldSteps_perm join scope level hrest)
    split
    · exact .refl _
    · exact valueSteps_perm join _ _ _ _ level hvalue

theorem promotedSteps_perm (join : ScopeJoin) (scope : String) (level : Nat) :
    ∀ {fields fields' : List (Field × Value)}, FieldsReordered fields fields' →
      (promotedSteps join scope level fields).Perm (promotedSteps join scope level fields')
  | _, _, .nil => .refl _
  | _, _, .cons field hvalue hrest => by
    rw [promotedSteps, promotedSteps, Field.promotes, Field.promotes, hvalue.isStruct_eq]
    refine List.Perm.append ?_ (promotedSteps_perm join scope level hrest)
    split
    · exact inPlaceSteps_perm join scope level hvalue
    · exact .refl _

theorem entrySteps_perm (join : ScopeJoin) (style : Style) (scope : String) (level : Nat) :
    ∀ {entries entries' : List (Value × Value)}, EntriesReordered entries entries' →
      (entrySteps join style scope level entries).Perm (entrySteps join style scope level entries')
  | _, _, .nil => .refl _
  | _, _, .cons hname hvalue hrest => by
    rw [entrySteps, entrySteps, hname.render_eq, hvalue.isEmpty_eq]
    refine List.Perm.append ?_ (entrySteps_perm join style scope level hrest)
    split
    · exact .refl _
    · exact valueSteps_perm join style .slot _ _ level hvalue

theorem elementSteps_perm (join : ScopeJoin) (style : Style) (key : String)
    (level : Nat) :
    ∀ (index : Nat) {items items' : List Value}, ItemsReordered items items' →
      (elementSteps join style key level index items).Perm
        (elementSteps join style key level index items')
  | _, _, _, .nil => .refl _
  | index, _, _, .cons hvalue hrest => by
    rw [elementSteps, elementSteps]
    exact (valueSteps_perm join style .element _ _ level hvalue).append
      (elementSteps_perm join style key level (index + 1) hrest)

theorem pairSteps_perm (join : ScopeJoin) (scope : String) (level : Nat) :
    ∀ {items items' : List Value}, ItemsReordered items items' →
      (pairSteps join scope level items).Perm (pairSteps join scope level items')
  | _, _, .nil => .refl _
  | _, _, .cons hfirst .nil => by
    simp only [pairSteps, hfirst.isContainer_eq]
    split
    · exact (inPlaceSteps_perm join scope level hfirst).append_right _
    · exact .refl _
  | _, _, .cons hfirst hothers@(.cons hsecond hrest) => by
    rw [pairSteps, pairSteps, hfirst.isContainer_eq]
    -- Whether an element is a container does not change, so both sides are read in the same pairs.
    split
    · exact (inPlaceSteps_perm join scope level hfirst).append
        (pairSteps_perm join scope level hothers)
    · rw [hfirst.render_eq, hsecond.render_eq]
      exact (pairSteps_perm join scope level hrest).cons _

theorem inPlaceSteps_perm (join : ScopeJoin) (scope : String) (level : Nat) :
    ∀ {v w : Value}, v.Reordered w →
      (inPlaceSteps join scope level v).Perm (inPlaceSteps join scope level w)
  | _, _, .same _ => .refl _
  | _, _, .seq _ => .refl _
  | _, _, .map h hperm => by
    rw [inPlaceSteps, inPlaceSteps]
    refine perm_enclosed ((entrySteps_perm join {} scope level h).trans ?_) scope level
    rw [entrySteps_eq_flatMap, entrySteps_eq_flatMap join {} scope level _]
    exact hperm.flatMap_right _
  | _, _, .struct h => by
    rw [inPlaceSteps, inPlaceSteps]
    exact perm_enclosed ((fieldSteps_perm join scope level h).append
      (promotedSteps_perm join scope level h)) scope level
  | _, _, .pointer _ h => by
    rw [inPlaceSteps, inPlaceSteps]
    exact inPlaceSteps_perm join scope level h

theorem valueSteps_perm (join : ScopeJoin) (style : Style) (place : Place) (scope key : String)
    (level : Nat) :
    ∀ {v w : Value}, v.Reordered w →
      (valueSteps join style place scope key level v).Perm
        (valueSteps join style place scope key level w)
  | _, _, .same _ => .refl _
  | _, _, .seq h => by
    cases place with
    | slot =>
      cases hlayout : style.layout with
      | joined separator =>
        -- A map has the empty text, in whatever order it is.
        have hempty := Reordered.isZero_eq (.seq h)
        rw [Value.isZero, Value.isZero] at hempty
        simp only [valueSteps, hlayout, joinElements, h.renderAll_eq, hempty]
        exact .refl _
      | brackets | numbered | indexed | repeated =>
        simp only [valueSteps, hlayout]
        exact elementSteps_perm join style key level 0 h
    | element =>
      rw [valueSteps, valueSteps]
      exact perm_enclosed (pairSteps_perm join key (level + 1) h) key (level + 1)
  | _, _, .map h hperm => by
    rw [valueSteps, valueSteps]
    refine perm_enclosed ((entrySteps_perm join style scope (level + 1) h).trans ?_)
      scope (level + 1)
    rw [entrySteps_eq_flatMap, entrySteps_eq_flatMap join style scope (level + 1) _]
    exact hperm.flatMap_right _
  | _, _, .struct h => by
    rw [valueSteps, valueSteps]
    exact perm_enclosed ((fieldSteps_perm join scope (level + 1) h).append
      (promotedSteps_perm join scope (level + 1) h)) scope (level + 1)
  | _, _, .pointer _ h => by
    rw [valueSteps, valueSteps]
    exact valueSteps_perm join style place scope key level h

/-- **The steps of a reordered value are those of the value in some order.** -/
theorem rootSteps_perm (join : ScopeJoin) :
    ∀ {v w : Value}, v.Reordered w → (rootSteps join v).Perm (rootSteps join w)
  | _, _, .same _ => .refl _
  | _, _, .seq h => by
    rw [rootSteps, rootSteps]
    exact perm_enclosed (pairSteps_perm join "" 0 h) "" 0
  | _, _, .map h hperm => inPlaceSteps_perm join "" 0 (.map h hperm)
  | _, _, .struct h => inPlaceSteps_perm join "" 0 (.struct h)
  | _, _, .pointer _ h => by
    rw [rootSteps, rootSteps]
    exact rootSteps_perm join h

end

/-! ## The result of a walk without encoders -/

/--
A value without encoders is encoded just if it is when reordered, and then each is encoded as the
pairs that its walk writes.
-/
theorem encode_perm (config : Config) {v w : Value} (h : v.Reordered w)
    (hplain : v.encoders = []) :
    ((∃ a, v.encode config = .ok a) ↔ ∃ b, w.encode config = .ok b) ∧
      ∀ {a b}, v.encode config = .ok a → w.encode config = .ok b →
        a = Params.ofPairs (written (rootSteps config.scopeJoin v)) ∧
          b = Params.ofPairs (written (rootSteps config.scopeJoin w)) := by
  cases hroot : v.kind.isRoot with
  | false =>
    have hroot' : w.kind.isRoot = false := by rw [h.kind_eq, hroot]
    exact ⟨⟨fun ⟨_, ha⟩ => absurd ha (encode_ne_ok_of_not_isRoot hroot),
      fun ⟨_, hb⟩ => absurd hb (encode_ne_ok_of_not_isRoot hroot')⟩,
      fun ha => absurd ha (encode_ne_ok_of_not_isRoot hroot)⟩
  | true =>
    have hperm := rootSteps_perm config.scopeJoin h
    have hv := within_rootSteps config.scopeJoin v hroot
    rw [hplain] at hv
    have hw : ∀ step ∈ rootSteps config.scopeJoin w, step.Within [] := fun step hstep =>
      hv step (hperm.mem_iff.2 hstep)
    have hvisited : ∀ c, c ∈ visited (rootSteps config.scopeJoin v) ↔
        c ∈ visited (rootSteps config.scopeJoin w) := fun c =>
      (hperm.filterMap Step.container?).mem_iff
    simp only [encode_eq_ok_iff_of_within hv, encode_eq_ok_iff_of_within hw, hvisited]
    exact ⟨by simp, fun ha hb => ⟨ha.2, hb.2⟩⟩

/-! ## Keys that lie apart -/

open Params (valuesUnder)

/-- What an entry writes under a key. -/
def entryValues (join : ScopeJoin) (scope : String) (level : Nat) (key : String)
    (entry : Value × Value) : List String :=
  valuesUnder key (written (entrySteps join {} scope level [entry]))

theorem valuesUnder_entrySteps (join : ScopeJoin) (scope : String) (level : Nat) (key : String)
    (entries : List (Value × Value)) :
    valuesUnder key (written (entrySteps join {} scope level entries))
      = (entries.map (entryValues join scope level key)).flatten := by
  induction entries with
  | nil => rw [entrySteps]; rfl
  | cons entry rest ih =>
    rw [← List.singleton_append, entrySteps_append, written_append, Params.valuesUnder_append, ih]
    rfl

theorem entriesApart_of_mem {join : ScopeJoin} {entry : Value × Value} :
    ∀ {entries : List (Value × Value)}, EntriesApart join entries → entry ∈ entries →
      EntriesApart join [entry]
  | (_, _) :: _, ⟨hclean, _, hvalue, hrest⟩, hmem => by
    rcases List.mem_cons.1 hmem with rfl | hmem
    · exact ⟨hclean, nofun, hvalue, trivial⟩
    · exact entriesApart_of_mem hrest hmem

/-- An entry writes under keys in its scope alone. -/
theorem covers_of_entryValues {join : ScopeJoin} {scope key : String} {level : Nat}
    {entry : Value × Value} (h : EntriesApart join [entry])
    (hne : entryValues join scope level key entry ≠ []) :
    join.Covers (join.join scope (entry.1.render {})) key := by
  obtain ⟨kv, hkv, rfl⟩ := Params.valuesUnder_ne_nil_iff.1 hne
  obtain ⟨entry', hentry, hcovers⟩ := covers_of_mem_entrySteps join scope level [entry] h kv hkv
  rwa [List.mem_singleton.1 hentry] at hcovers

/-- **Of two entries of a map, at most one writes under a key.** -/
theorem pairwise_entryValues (join : ScopeJoin) (scope : String) (level : Nat) (key : String) :
    ∀ {entries : List (Value × Value)}, EntriesApart join entries →
      (entries.map (entryValues join scope level key)).Pairwise fun a b => a = [] ∨ b = []
  | [], _ => .nil
  | (name, value) :: rest, h => by
    have hfirst : EntriesApart join [(name, value)] := entriesApart_of_mem h List.mem_cons_self
    obtain ⟨hclean, hnames, -, hrest⟩ := h
    rw [List.map_cons, List.pairwise_cons]
    refine ⟨?_, pairwise_entryValues join scope level key hrest⟩
    intro values hvalues
    obtain ⟨entry, hentry, rfl⟩ := List.mem_map.1 hvalues
    have hother := entriesApart_of_mem hrest hentry
    -- If both write under the key, their names both cover it, and so are equal.
    by_cases hnil : entryValues join scope level key (name, value) = []
    · exact .inl hnil
    · by_cases hnil' : entryValues join scope level key entry = []
      · exact .inr hnil'
      · have hcovers := covers_of_entryValues hfirst hnil
        have hcovers' := covers_of_entryValues hother hnil'
        exact absurd (ScopeJoin.eq_of_covers_join hclean hother.1 hcovers hcovers').symm
          (hnames entry hentry)

/-- The order of lists does not matter to what they hold together, if all but one are empty. -/
theorem flatten_eq_of_perm {l m : List (List String)} (h : l.Perm m) :
    (l.Pairwise fun a b => a = [] ∨ b = []) → l.flatten = m.flatten := by
  induction h with
  | nil => exact fun _ => rfl
  | cons a _ ih =>
    intro hd
    rw [List.flatten_cons, List.flatten_cons, ih (List.pairwise_cons.1 hd).2]
  | swap a b l =>
    -- One of the two is empty, so nothing comes before anything else than it did.
    intro hd
    rcases (List.pairwise_cons.1 hd).1 a List.mem_cons_self with rfl | rfl
    · rfl
    · rfl
  | trans h₁ _ ih₁ ih₂ =>
    intro hd
    rw [ih₁ hd, ih₂ ((h₁.pairwise_iff Or.symm).1 hd)]

/--
Where the keys of entries lie apart, their order does not matter to the values of a key, nor
anything else than what each of them writes under it.
-/
theorem valuesUnder_entrySteps_of_perm {join : ScopeJoin} {key scope : String} {level : Nat}
    {entries inner entries' : List (Value × Value)} (hapart : EntriesApart join entries)
    (hinner : entries.map (entryValues join scope level key)
      = inner.map (entryValues join scope level key))
    (hperm : inner.Perm entries') :
    valuesUnder key (written (entrySteps join {} scope level entries))
      = valuesUnder key (written (entrySteps join {} scope level entries')) := by
  have hpairwise := pairwise_entryValues join scope level key hapart
  rw [hinner] at hpairwise
  rw [valuesUnder_entrySteps, valuesUnder_entrySteps, hinner]
  exact flatten_eq_of_perm (hperm.map _) hpairwise

mutual

/-- The values of each key stay in their order, where the keys of a value lie apart. -/
theorem valuesUnder_valueSteps_reordered (join : ScopeJoin) (key scope : String) (level : Nat) :
    ∀ {v w : Value}, v.Reordered w → v.KeysApart join →
      valuesUnder key (written (valueSteps join {} .slot scope scope level v))
        = valuesUnder key (written (valueSteps join {} .slot scope scope level w))
  | _, _, .same _, _ => rfl
  | _, _, .seq h, hapart => by rw [h.eq_of_isScalar hapart]
  | _, _, .map h hperm, hapart => by
    rw [valueSteps, valueSteps, written_enclosed, written_enclosed]
    exact valuesUnder_entrySteps_of_perm hapart
      (entryValues_reordered join key scope (level + 1) h hapart) hperm
  | _, _, .struct _, hapart => absurd hapart nofun
  | _, _, .pointer _ h, hapart => by
    rw [valueSteps, valueSteps]
    exact valuesUnder_valueSteps_reordered join key scope level h hapart

theorem entryValues_reordered (join : ScopeJoin) (key scope : String) (level : Nat) :
    ∀ {entries entries' : List (Value × Value)}, EntriesReordered entries entries' →
      EntriesApart join entries →
      entries.map (entryValues join scope level key)
        = entries'.map (entryValues join scope level key)
  | _, _, .nil, _ => rfl
  | _, _, .cons hname hvalue hrest, hapart => by
    obtain ⟨-, -, hapart, hothers⟩ := hapart
    rw [List.map_cons, List.map_cons, entryValues_reordered join key scope level hrest hothers]
    congr 1
    simp only [entryValues, entrySteps, List.append_nil, hname.render_eq, hvalue.isEmpty_eq]
    split
    · rfl
    · exact valuesUnder_valueSteps_reordered join key _ level hvalue hapart

theorem valuesUnder_rootSteps_reordered (join : ScopeJoin) (key : String) :
    ∀ {v w : Value}, v.Reordered w → v.kind = .map → v.KeysApart join →
      valuesUnder key (written (rootSteps join v)) = valuesUnder key (written (rootSteps join w))
  | _, _, .same _, _, _ => rfl
  | _, _, .map h hperm, _, hapart => by
    rw [rootSteps, rootSteps, inPlaceSteps, inPlaceSteps, written_enclosed, written_enclosed]
    exact valuesUnder_entrySteps_of_perm hapart
      (entryValues_reordered join key "" 0 h hapart) hperm
  | _, _, .pointer _ h, hkind, hapart => by
    rw [rootSteps, rootSteps]
    exact valuesUnder_rootSteps_reordered join key h hkind hapart

end

end Encoding

open Encoding

/--
**The order of entries does not matter.** Let no encoder stand in a value. If the entries of its
maps are put into another order, it is encoded just if it was, and the values of each key are the
same in some order. If it is a map whose keys lie apart, the result is the same.
-/
theorem Value.encode_reordered (config : Config) {v w : Value} (h : v.Reordered w)
    (hplain : v.encoders = []) :
    ((∃ a, v.encode config = .ok a) ↔ ∃ b, w.encode config = .ok b) ∧
      ∀ a b, v.encode config = .ok a → w.encode config = .ok b →
        (∀ key, (a.getAll key).Perm (b.getAll key)) ∧
          (v.kind = .map → v.KeysApart config.scopeJoin → a = b) := by
  obtain ⟨hok, hresult⟩ := encode_perm config h hplain
  refine ⟨hok, fun a b ha hb => ?_⟩
  obtain ⟨rfl, rfl⟩ := hresult ha hb
  constructor
  · intro key
    rw [Params.getAll_ofPairs, Params.getAll_ofPairs]
    exact Params.valuesUnder_perm ((rootSteps_perm _ h).filterMap _) key
  · intro hkind hapart
    exact Params.ofPairs_eq_iff.2 fun key =>
      valuesUnder_rootSteps_reordered config.scopeJoin key h hkind hapart

/-- Entries of two maps, one inside of the other, in another order. -/
theorem Value.encode_reordered_nested :
    let v := Value.map [(.text "b", .seq [.int 2, .int 1]),
      (.text "a", .map [(.text "y", .text ""), (.text "x", .bool true), (.text "z", .char 'c')])]
    let w := Value.map [
      (.text "a", .map [(.text "x", .bool true), (.text "y", .text ""), (.text "z", .char 'c')]),
      (.text "b", .seq [.int 2, .int 1])]
    v.Reordered w ∧ v.encoders = [] ∧ v.kind = .map ∧ v.KeysApart .brackets ∧
      v.encode {} = w.encode {} ∧
      v.encode {}
        = .ok (Params.ofPairs [("a[x]", "true"), ("a[z]", "c"), ("b", "2"), ("b", "1")]) := by
  intro v w
  have hinner : Reordered
      (.map [(.text "y", .text ""), (.text "x", .bool true), (.text "z", .char 'c')])
      (.map [(.text "x", .bool true), (.text "y", .text ""), (.text "z", .char 'c')]) :=
    .map (.cons (.same _) (.same _) (.cons (.same _) (.same _) (.cons (.same _) (.same _) .nil)))
      (.swap _ _ _)
  have h : v.Reordered w :=
    .map (.cons (.same _) (.same _) (.cons (.same _) hinner .nil)) (.swap _ _ _)
  have hapart : v.KeysApart .brackets := by
    simp [v, KeysApart, EntriesApart, isScalar, render, ScopeJoin.isClean, ScopeJoin.mark,
      ScopeJoin.close]
  have hv : v.encode {} = .ok (Params.ofPairs [("a[x]", "true"), ("a[z]", "c"), ("b", "2"),
      ("b", "1")]) := rfl
  obtain ⟨hok, hresult⟩ := Value.encode_reordered {} h rfl
  obtain ⟨b, hb⟩ := hok.1 ⟨_, hv⟩
  refine ⟨h, rfl, rfl, hapart, ?_, hv⟩
  rw [hv, hb, (hresult _ b hv hb).2 rfl hapart]

end UrlQuery
