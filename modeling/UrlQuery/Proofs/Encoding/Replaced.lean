import UrlQuery.Proofs.Encoding.Sequence

/-!
# Fields with others in their place

Which fields may stand in the place of a field is said by a relation. The relation is carried from
fields to values: a value is replaced by putting such fields in place of some of those in it, in
any of its structs and at any depth.

Where a walk does the same for a field and for those in its place, in every scope and at every
level, it does the same for the whole values (`rootSteps_replaced`). So a fact about one field and
what may stand for it is enough for a fact about all values (`Value.encodeInto_replaced`).
-/

namespace UrlQuery

/-- What fields may stand in the place of a field with its value. -/
abbrev Field.Replacement := Field × Value → List (Field × Value) → Prop

namespace Value

variable (R : Field.Replacement)

mutual

/-- The second value is the first, where some fields have others in their place. -/
inductive Replaced : Value → Value → Prop where
  | same (value : Value) : Replaced value value
  | seq {items items' : List Value} (h : ItemsReplaced items items') :
    Replaced (.seq items) (.seq items')
  | map {entries entries' : List (Value × Value)} (h : EntriesReplaced entries entries') :
    Replaced (.map entries) (.map entries')
  | struct {fields fields' : List (Field × Value)} (h : FieldsReplaced fields fields') :
    Replaced (.struct fields) (.struct fields')
  | pointer (kind : Pointer) {value value' : Value} (h : Replaced value value') :
    Replaced (.pointer kind value) (.pointer kind value')

/-- Each element is replaced. -/
inductive ItemsReplaced : List Value → List Value → Prop where
  | nil : ItemsReplaced [] []
  | cons {value value' : Value} {rest rest' : List Value} (hvalue : Replaced value value')
    (hrest : ItemsReplaced rest rest') : ItemsReplaced (value :: rest) (value' :: rest')

/-- The key and the value of each entry are replaced. -/
inductive EntriesReplaced : List (Value × Value) → List (Value × Value) → Prop where
  | nil : EntriesReplaced [] []
  | cons {name name' value value' : Value} {rest rest' : List (Value × Value)}
    (hname : Replaced name name') (hvalue : Replaced value value')
    (hrest : EntriesReplaced rest rest') :
    EntriesReplaced ((name, value) :: rest) ((name', value') :: rest')

/-- The value of each field is replaced, or the field has others in its place. -/
inductive FieldsReplaced : List (Field × Value) → List (Field × Value) → Prop where
  | nil : FieldsReplaced [] []
  | cons (field : Field) {value value' : Value} {rest rest' : List (Field × Value)}
    (hvalue : Replaced value value') (hrest : FieldsReplaced rest rest') :
    FieldsReplaced ((field, value) :: rest) ((field, value') :: rest')
  | others {entry : Field × Value} {others : List (Field × Value)} (h : R entry others)
    {rest rest' : List (Field × Value)} (hrest : FieldsReplaced rest rest') :
    FieldsReplaced (entry :: rest) (others ++ rest')

end

variable {R : Field.Replacement}

/-! ## What replacing fields keeps -/

theorem Replaced.isZero_eq : ∀ {v w : Value}, v.Replaced R w → w.isZero = v.isZero
  | _, _, .same _ => rfl
  | _, _, .seq h => by cases h <;> rfl
  | _, _, .map h => by cases h <;> rfl
  | _, _, .struct _ => rfl
  | _, _, .pointer _ h => h.isZero_eq

mutual

theorem Replaced.render_eq (options : RenderOptions) :
    ∀ {v w : Value}, v.Replaced R w → w.render options = v.render options
  | _, _, .same _ => rfl
  | _, _, .seq h => by rw [render, render, h.renderAll_eq options]
  | _, _, .map _ => rfl
  | _, _, .struct _ => rfl
  | _, _, .pointer _ h => h.render_eq options

theorem ItemsReplaced.renderAll_eq (options : RenderOptions) :
    ∀ {items items' : List Value}, ItemsReplaced R items items' →
      renderAll options items' = renderAll options items
  | _, _, .nil => rfl
  | _, _, .cons hvalue hrest => by
    rw [renderAll, renderAll, hvalue.render_eq options, hrest.renderAll_eq options]

end

theorem Replaced.isEmpty_eq : ∀ {v w : Value}, v.Replaced R w → w.isEmpty = v.isEmpty
  | _, _, .same _ => rfl
  | _, _, .seq h => Replaced.isZero_eq (.seq h)
  | _, _, .map h => Replaced.isZero_eq (.map h)
  | _, _, .struct _ => rfl
  | _, _, .pointer .reference h => h.isEmpty_eq
  | _, _, .pointer .present _ | _, _, .pointer .boxed _ | _, _, .pointer .shared _ => rfl

theorem Replaced.isStruct_eq : ∀ {v w : Value}, v.Replaced R w → w.isStruct = v.isStruct
  | _, _, .same _ | _, _, .seq _ | _, _, .map _ | _, _, .struct _ => rfl
  | _, _, .pointer _ h => h.isStruct_eq

theorem Replaced.isContainer_eq : ∀ {v w : Value}, v.Replaced R w → w.isContainer = v.isContainer
  | _, _, .same _ | _, _, .seq _ | _, _, .map _ | _, _, .struct _ => rfl
  | _, _, .pointer _ h => h.isContainer_eq

end Value

/-- A walk does the same for both lists of fields, in every scope and at every level. -/
structure Field.SameSteps (a b : List (Field × Value)) : Prop where
  fields : ∀ join scope level,
    Encoding.fieldSteps join scope level a = Encoding.fieldSteps join scope level b
  promoted : ∀ join scope level,
    Encoding.promotedSteps join scope level a = Encoding.promotedSteps join scope level b

/-- A walk does the same for a field and for those that may stand in its place. -/
def Field.Replacement.KeepsSteps (R : Field.Replacement) : Prop :=
  ∀ entry others, R entry others → Field.SameSteps [entry] others

namespace Encoding

open Value (Replaced ItemsReplaced EntriesReplaced FieldsReplaced)

variable {R : Field.Replacement}

/-! ## The steps of a value with other fields -/

mutual

theorem fieldSteps_replaced (hR : R.KeepsSteps) (join : ScopeJoin) (scope : String)
    (level : Nat) :
    ∀ {fields fields' : List (Field × Value)}, FieldsReplaced R fields fields' →
      fieldSteps join scope level fields' = fieldSteps join scope level fields
  | _, _, .nil => rfl
  | _, _, .cons field hvalue hrest => by
    rw [fieldSteps, fieldSteps, Field.promotes, Field.promotes, hvalue.isStruct_eq,
      hvalue.isEmpty_eq, fieldSteps_replaced hR join scope level hrest,
      valueSteps_replaced hR join _ _ _ _ level hvalue]
  | entry :: rest, _, .others h hrest => by
    rw [fieldSteps_append, fieldSteps_replaced hR join scope level hrest,
      ← (hR _ _ h).fields join scope level, ← fieldSteps_append, List.singleton_append]

theorem promotedSteps_replaced (hR : R.KeepsSteps) (join : ScopeJoin) (scope : String)
    (level : Nat) :
    ∀ {fields fields' : List (Field × Value)}, FieldsReplaced R fields fields' →
      promotedSteps join scope level fields' = promotedSteps join scope level fields
  | _, _, .nil => rfl
  | _, _, .cons field hvalue hrest => by
    rw [promotedSteps, promotedSteps, Field.promotes, Field.promotes, hvalue.isStruct_eq,
      promotedSteps_replaced hR join scope level hrest,
      inPlaceSteps_replaced hR join scope level hvalue]
  | entry :: rest, _, .others h hrest => by
    rw [promotedSteps_append, promotedSteps_replaced hR join scope level hrest,
      ← (hR _ _ h).promoted join scope level, ← promotedSteps_append, List.singleton_append]

theorem entrySteps_replaced (hR : R.KeepsSteps) (join : ScopeJoin) (style : Style)
    (scope : String) (level : Nat) :
    ∀ {entries entries' : List (Value × Value)}, EntriesReplaced R entries entries' →
      entrySteps join style scope level entries' = entrySteps join style scope level entries
  | _, _, .nil => rfl
  | _, _, .cons hname hvalue hrest => by
    rw [entrySteps, entrySteps, hname.render_eq, hvalue.isEmpty_eq,
      entrySteps_replaced hR join style scope level hrest]
    simp only [valueSteps_replaced hR join style .slot _ _ level hvalue]

theorem elementSteps_replaced (hR : R.KeepsSteps) (join : ScopeJoin) (style : Style)
    (key : String) (level : Nat) :
    ∀ (index : Nat) {items items' : List Value}, ItemsReplaced R items items' →
      elementSteps join style key level index items'
        = elementSteps join style key level index items
  | _, _, _, .nil => rfl
  | index, _, _, .cons hvalue hrest => by
    rw [elementSteps, elementSteps,
      elementSteps_replaced hR join style key level (index + 1) hrest]
    simp only [valueSteps_replaced hR join style .element _ _ level hvalue]

theorem pairSteps_replaced (hR : R.KeepsSteps) (join : ScopeJoin) (scope : String)
    (level : Nat) :
    ∀ {items items' : List Value}, ItemsReplaced R items items' →
      pairSteps join scope level items' = pairSteps join scope level items
  | _, _, .nil => rfl
  | _, _, .cons hfirst .nil => by
    simp only [pairSteps, hfirst.isContainer_eq, inPlaceSteps_replaced hR join scope level hfirst]
  | _, _, .cons hfirst hothers@(.cons hsecond hrest) => by
    -- What is a container stays one, so both sides are read in the same pairs.
    rw [pairSteps, pairSteps, hfirst.isContainer_eq, hfirst.render_eq, hsecond.render_eq,
      inPlaceSteps_replaced hR join scope level hfirst,
      pairSteps_replaced hR join scope level hothers, pairSteps_replaced hR join scope level hrest]

theorem inPlaceSteps_replaced (hR : R.KeepsSteps) (join : ScopeJoin) (scope : String)
    (level : Nat) :
    ∀ {v w : Value}, v.Replaced R w →
      inPlaceSteps join scope level w = inPlaceSteps join scope level v
  | _, _, .same _ => rfl
  | _, _, .seq _ => rfl
  | _, _, .map h => by
    rw [inPlaceSteps, inPlaceSteps, entrySteps_replaced hR join {} scope level h]
  | _, _, .struct h => by
    rw [inPlaceSteps, inPlaceSteps, fieldSteps_replaced hR join scope level h,
      promotedSteps_replaced hR join scope level h]
  | _, _, .pointer _ h => by
    rw [inPlaceSteps, inPlaceSteps, inPlaceSteps_replaced hR join scope level h]

theorem valueSteps_replaced (hR : R.KeepsSteps) (join : ScopeJoin) (style : Style)
    (place : Place) (scope key : String) (level : Nat) :
    ∀ {v w : Value}, v.Replaced R w →
      valueSteps join style place scope key level w = valueSteps join style place scope key level v
  | _, _, .same _ => rfl
  | _, _, .seq h => by
    cases place with
    | slot =>
      cases hlayout : style.layout with
      | joined separator =>
        have hempty := Replaced.isZero_eq (.seq h)
        rw [Value.isZero, Value.isZero] at hempty
        simp only [valueSteps, hlayout, joinElements, h.renderAll_eq, hempty]
      | brackets | numbered | indexed | repeated =>
        simp only [valueSteps, hlayout]
        exact elementSteps_replaced hR join style key level 0 h
    | element => rw [valueSteps, valueSteps, pairSteps_replaced hR join key (level + 1) h]
  | _, _, .map h => by
    rw [valueSteps, valueSteps, entrySteps_replaced hR join style scope (level + 1) h]
  | _, _, .struct h => by
    rw [valueSteps, valueSteps, fieldSteps_replaced hR join scope (level + 1) h,
      promotedSteps_replaced hR join scope (level + 1) h]
  | _, _, .pointer _ h => by
    rw [valueSteps, valueSteps, valueSteps_replaced hR join style place scope key level h]

/-- **A walk does the same where fields have others in their place that it does the same for.** -/
theorem rootSteps_replaced (hR : R.KeepsSteps) (join : ScopeJoin) :
    ∀ {v w : Value}, v.Replaced R w → rootSteps join w = rootSteps join v
  | _, _, .same _ => rfl
  | _, _, .seq h => by rw [rootSteps, rootSteps, pairSteps_replaced hR join "" 0 h]
  | _, _, .map h => inPlaceSteps_replaced hR join "" 0 (.map h)
  | _, _, .struct h => inPlaceSteps_replaced hR join "" 0 (.struct h)
  | _, _, .pointer _ h => by rw [rootSteps, rootSteps, rootSteps_replaced hR join h]

end

end Encoding

/-- So it gives the same result, and leaves the same parameters. -/
theorem Value.encodeInto_replaced {R : Field.Replacement} (hR : R.KeepsSteps) (config : Config)
    {v w : Value} (h : v.Replaced R w) (p : Params) :
    w.encodeInto config p = v.encodeInto config p := by
  rw [Value.encodeInto_eq, Value.encodeInto_eq,
    Encoding.rootSteps_replaced hR config.scopeJoin h]

end UrlQuery
