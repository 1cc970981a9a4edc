import UrlQuery.Proofs.Encoding.Replaced
import UrlQuery.Proofs.Field.Tag

/-!
# Fields that take no part

A hidden field takes no part in an encoding, and a field that omits empty values takes none while
its value is empty. A value is redacted by putting other values into hidden fields and by dropping
fields that take no part, in any of the structs in it.

The walk through a redacted value is the walk through the value: it does the same steps
(`rootSteps_redacted`). So what hidden fields hold shows neither in the result of an encoding nor in
the parameters (`Value.encodeInto_redacted`).
-/

namespace UrlQuery

/-! ## Fields -/

/-- The tag takes the field out, or the field is private and not embedded. -/
def Field.IsHidden (field : Field) : Prop :=
  field.tag = "-" ∨ (field.exported = false ∧ field.embedded = false)

/-- The field is hidden, or it omits empty values and the value is empty. -/
def Field.IsLeftOut (field : Field) (value : Value) : Prop :=
  field.IsHidden ∨ (field.rules.omitEmpty = true ∧ value.isEmpty = true)

theorem Field.skipped_iff {field : Field} : field.rules.skipped = true ↔ field.IsHidden := by
  have hskipped : field.rules.skipped
      = ((Tag.parse field.tag).isSkip || !(field.exported || field.embedded)) := rfl
  rw [hskipped, Bool.or_eq_true, Tag.isSkip_parse_iff, Field.IsHidden]
  simp

namespace Value

/-! ## Redacting -/

mutual

/-- The second value is the first, but for fields that take no part. -/
inductive Redacted : Value → Value → Prop where
  | same (value : Value) : Redacted value value
  | seq {items items' : List Value} (h : ItemsRedacted items items') :
    Redacted (.seq items) (.seq items')
  | map {entries entries' : List (Value × Value)} (h : EntriesRedacted entries entries') :
    Redacted (.map entries) (.map entries')
  | struct {fields fields' : List (Field × Value)} (h : FieldsRedacted fields fields') :
    Redacted (.struct fields) (.struct fields')
  | pointer (kind : Pointer) {value value' : Value} (h : Redacted value value') :
    Redacted (.pointer kind value) (.pointer kind value')

/-- Each element is redacted in its place. -/
inductive ItemsRedacted : List Value → List Value → Prop where
  | nil : ItemsRedacted [] []
  | cons {value value' : Value} {rest rest' : List Value} (hvalue : Redacted value value')
    (hrest : ItemsRedacted rest rest') : ItemsRedacted (value :: rest) (value' :: rest')

/-- The key and the value of each entry are redacted in their place. -/
inductive EntriesRedacted : List (Value × Value) → List (Value × Value) → Prop where
  | nil : EntriesRedacted [] []
  | cons {name name' value value' : Value} {rest rest' : List (Value × Value)}
    (hname : Redacted name name') (hvalue : Redacted value value')
    (hrest : EntriesRedacted rest rest') :
    EntriesRedacted ((name, value) :: rest) ((name', value') :: rest')

/-- The value of a field is redacted; if the field is hidden it may be any other. -/
inductive FieldsRedacted : List (Field × Value) → List (Field × Value) → Prop where
  | nil : FieldsRedacted [] []
  | cons (field : Field) {value value' : Value} {rest rest' : List (Field × Value)}
    (hvalue : Redacted value value') (hrest : FieldsRedacted rest rest') :
    FieldsRedacted ((field, value) :: rest) ((field, value') :: rest')
  | hidden {field : Field} (hfield : field.IsHidden) (value value' : Value)
    {rest rest' : List (Field × Value)} (hrest : FieldsRedacted rest rest') :
    FieldsRedacted ((field, value) :: rest) ((field, value') :: rest')
  /-- A field that takes no part is missing. -/
  | dropped {field : Field} {value : Value} (hfield : field.IsLeftOut value)
    {rest rest' : List (Field × Value)} (hrest : FieldsRedacted rest rest') :
    FieldsRedacted ((field, value) :: rest) rest'

end

end Value

/-! ## Redacting puts fields that take no part in place of others -/

/-- A field that takes no part has another value, or is missing. -/
inductive Field.TakesNoPart : Field.Replacement where
  | hidden {field : Field} (h : field.IsHidden) (value value' : Value) :
    TakesNoPart (field, value) [(field, value')]
  | dropped {field : Field} {value : Value} (h : field.IsLeftOut value) :
    TakesNoPart (field, value) []

namespace Value

mutual

theorem Redacted.replaced : ∀ {v w : Value}, v.Redacted w → v.Replaced Field.TakesNoPart w
  | _, _, .same value => .same value
  | _, _, .seq h => .seq h.replaced
  | _, _, .map h => .map h.replaced
  | _, _, .struct h => .struct h.replaced
  | _, _, .pointer kind h => .pointer kind h.replaced

theorem ItemsRedacted.replaced : ∀ {items items' : List Value}, ItemsRedacted items items' →
    ItemsReplaced Field.TakesNoPart items items'
  | _, _, .nil => .nil
  | _, _, .cons hvalue hrest => .cons hvalue.replaced hrest.replaced

theorem EntriesRedacted.replaced :
    ∀ {entries entries' : List (Value × Value)}, EntriesRedacted entries entries' →
      EntriesReplaced Field.TakesNoPart entries entries'
  | _, _, .nil => .nil
  | _, _, .cons hname hvalue hrest => .cons hname.replaced hvalue.replaced hrest.replaced

theorem FieldsRedacted.replaced :
    ∀ {fields fields' : List (Field × Value)}, FieldsRedacted fields fields' →
      FieldsReplaced Field.TakesNoPart fields fields'
  | _, _, .nil => .nil
  | _, _, .cons field hvalue hrest => .cons field hvalue.replaced hrest.replaced
  | _, _, .hidden hfield value value' hrest => .others (.hidden hfield value value') hrest.replaced
  | _, _, .dropped hfield hrest => .others (.dropped hfield) hrest.replaced

end

end Value

namespace Encoding

/-! ## Fields that are left out have no steps -/

theorem fieldSteps_of_isLeftOut (join : ScopeJoin) (scope : String) (level : Nat)
    {field : Field} {value : Value} (h : field.IsLeftOut value) :
    fieldSteps join scope level [(field, value)] = [] := by
  refine fieldSteps_of_passed join scope level ?_
  rcases h with hidden | ⟨homit, hempty⟩
  · simp [Field.skipped_iff.2 hidden]
  · simp [homit, hempty]

theorem promotedSteps_of_isLeftOut (join : ScopeJoin) (scope : String) (level : Nat)
    {field : Field} {value : Value} (h : field.IsLeftOut value) :
    promotedSteps join scope level [(field, value)] = [] := by
  rw [promotedSteps, promotedSteps]
  rcases h with hidden | ⟨-, hempty⟩
  · simp [Field.skipped_iff.2 hidden]
  · -- An empty value is no struct, so it is not promoted.
    cases hstruct : value.isStruct with
    | false => simp [Field.promotes, hstruct]
    | true =>
      rw [isEmpty_of_isStruct value hstruct] at hempty
      cases hempty

/-- A field that takes no part has the steps of any that stand in its place: none. -/
theorem keepsSteps_takesNoPart : Field.Replacement.KeepsSteps Field.TakesNoPart := by
  intro entry others h
  cases h with
  | hidden h value value' =>
    exact ⟨fun join scope level => by
        rw [fieldSteps_of_isLeftOut join scope level (.inl h),
          fieldSteps_of_isLeftOut join scope level (.inl h)],
      fun join scope level => by
        rw [promotedSteps_of_isLeftOut join scope level (.inl h),
          promotedSteps_of_isLeftOut join scope level (.inl h)]⟩
  | dropped h =>
    exact ⟨fun join scope level => by rw [fieldSteps_of_isLeftOut join scope level h, fieldSteps],
      fun join scope level => by rw [promotedSteps_of_isLeftOut join scope level h, promotedSteps]⟩

/-- **The steps of a redacted value are those of the value.** -/
theorem rootSteps_redacted (join : ScopeJoin) {v w : Value} (h : v.Redacted w) :
    rootSteps join w = rootSteps join v :=
  rootSteps_replaced keepsSteps_takesNoPart join h.replaced

end Encoding

/--
**What hidden fields hold is not encoded**, and neither are fields that omit an empty value: a
redacted value gives the same result as the value, and leaves the same parameters.
-/
theorem Value.encodeInto_redacted (config : Config) {v w : Value} (h : v.Redacted w) (p : Params) :
    w.encodeInto config p = v.encodeInto config p := by
  rw [Value.encodeInto_eq, Value.encodeInto_eq, Encoding.rootSteps_redacted config.scopeJoin h]

/-- Hidden fields in an embedded struct and at the root, and a field left out below a sequence. -/
theorem Value.encodeInto_redacted_nested :
    let value (secret skipped : Value) (note : List (Field × Value)) := Value.struct [
      ({ name := "a" }, .text "1"),
      ({ name := "secret", exported := false }, secret),
      ({ name := "base", embedded := true },
        .struct [({ name := "skipped", tag := "-" }, skipped), ({ name := "b" }, .text "2")]),
      ({ name := "list", tag := ",indexed" },
        .seq [.map [(.text "k", .struct (note ++ [({ name := "c" }, .text "3")]))]])]
    let v := value (.text "x") (.int 5) [({ name := "note", tag := ",omitempty" }, .text "")]
    let w := value (.custom (.ofWrites [.fail "no"]) false) (.absent none) []
    v.Redacted w ∧ w.encodeInto {} Params.empty = v.encodeInto {} Params.empty ∧
      v.encodeInto {} Params.empty
        = (.ok (), Params.ofPairs [("a", "1"), ("list[0][k][c]", "3"), ("b", "2")]) := by
  intro value v w
  have hlist : FieldsRedacted
      [({ name := "note", tag := ",omitempty" }, .text ""), ({ name := "c" }, .text "3")]
      [({ name := "c" }, .text "3")] :=
    .dropped (.inr ⟨by decide, rfl⟩) (.cons _ (.same _) .nil)
  have hbase : FieldsRedacted
      [({ name := "skipped", tag := "-" }, .int 5), ({ name := "b" }, .text "2")]
      [({ name := "skipped", tag := "-" }, .absent none), ({ name := "b" }, .text "2")] :=
    .hidden (.inl rfl) _ _ (.cons _ (.same _) .nil)
  have h : v.Redacted w := .struct (.cons _ (.same _) (.hidden (.inr ⟨rfl, rfl⟩) _ _
    (.cons _ (.struct hbase)
      (.cons _ (.seq (.cons (.map (.cons (.same _) (.struct hlist) .nil)) .nil)) .nil))))
  exact ⟨h, Value.encodeInto_redacted {} h Params.empty, by rfl⟩

end UrlQuery
