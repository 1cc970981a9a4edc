import UrlQuery.Proofs.Encoding.Keys
import UrlQuery.Proofs.Encoding.Redacted

/-!
# Vacant fields

An embedded field that bears no name in its tag stands for the fields of the struct in it. It is
vacant if its value is absent and no encoder runs for that value, as there is no struct then.

A vacant field is named as any other field is. It is left out where its tag says so, and otherwise
it writes the empty text under its declared name: it can be replaced by nothing, or by a plain
field that holds this text (`Value.encodeInto_vacant`). So it is not as if the field were not there
(`Value.encodeInto_vacant_written`).
-/

namespace UrlQuery

/-- The value behind all pointers is absent, and no encoder runs in its place. -/
def Value.isAbsent : Value → Bool
  | absent encoder => encoder.isNone
  | pointer _ value => value.isAbsent
  | _ => false

/-- The field is embedded, bears no name in its tag, and its value is absent. -/
structure Field.IsVacant (field : Field) (value : Value) : Prop where
  embedded_eq : field.embedded = true
  unnamed : field.rules.explicitName = none
  absent : value.isAbsent = true

/-- What can stand in the place of a vacant field. -/
inductive Field.VacantAs : Field.Replacement where
  /-- Nothing, where the field is left out. -/
  | nothing {field : Field} {value : Value} (h : field.IsVacant value)
    (hleft : field.IsLeftOut value) : VacantAs (field, value) []
  /-- The empty text in a plain field of the declared name, where it is not. -/
  | emptyText {field : Field} {value : Value} (h : field.IsVacant value)
    (hleft : ¬ field.IsLeftOut value) : VacantAs (field, value) [({ name := field.name }, .text "")]

namespace Value

theorem isScalar_of_isAbsent : ∀ {value : Value}, value.isAbsent = true → value.isScalar = true
  | .absent none, _ => rfl
  | .pointer _ value, h => @isScalar_of_isAbsent value h

theorem render_of_isAbsent (options : RenderOptions) :
    ∀ {value : Value}, value.isAbsent = true → value.render options = ""
  | .absent none, _ => rfl
  | .pointer _ value, h => @render_of_isAbsent options value h

theorem isStruct_of_isAbsent : ∀ {value : Value}, value.isAbsent = true → value.isStruct = false
  | .absent none, _ => rfl
  | .pointer _ value, h => @isStruct_of_isAbsent value h

end Value

theorem Field.IsVacant.not_promotes {field : Field} {value : Value} (h : field.IsVacant value) :
    field.promotes value = false :=
  Field.promotes_of_not_isStruct (Value.isStruct_of_isAbsent h.absent)

namespace Encoding

/-! ## The steps of a vacant field -/

/-- A vacant field that is not left out writes the empty text under its declared name. -/
theorem fieldSteps_of_isVacant (join : ScopeJoin) (scope : String) (level : Nat) {field : Field}
    {value : Value} (h : field.IsVacant value) (hleft : ¬ field.IsLeftOut value) :
    fieldSteps join scope level [(field, value)] = [.write (join.join scope field.name) ""] := by
  obtain ⟨hhidden, homit⟩ := not_or.1 hleft
  have hskipped : field.rules.skipped = false := by
    rwa [← Field.skipped_iff, Bool.not_eq_true] at hhidden
  have hname : field.queryName = field.name := by
    rw [Field.queryName, h.unnamed]
    rfl
  rw [fieldSteps_of_visited join scope level hskipped h.not_promotes (by simpa using homit),
    valueSteps_of_isScalar join _ _ _ _ _ (Value.isScalar_of_isAbsent h.absent),
    Value.render_of_isAbsent _ h.absent, hname]

/-- So does a plain field that holds the empty text. -/
theorem fieldSteps_emptyText (join : ScopeJoin) (scope : String) (level : Nat) (name : String) :
    fieldSteps join scope level [({ name := name }, .text "")]
      = [.write (join.join scope name) ""] := rfl

theorem keepsSteps_vacantAs : Field.Replacement.KeepsSteps Field.VacantAs := by
  intro entry others h
  cases h with
  | nothing h hleft =>
    exact ⟨fun join scope level => by
        rw [fieldSteps_of_isLeftOut join scope level hleft, fieldSteps],
      fun join scope level => by
        rw [promotedSteps_of_isLeftOut join scope level hleft, promotedSteps]⟩
  | emptyText h hleft =>
    exact ⟨fun join scope level => by
        rw [fieldSteps_of_isVacant join scope level h hleft, fieldSteps_emptyText],
      fun join scope level => by
        rw [promotedSteps_of_not_promotes join scope level h.not_promotes,
          promotedSteps_of_not_promotes join scope level rfl]⟩

/-- At the root, a vacant field that is not left out adds one pair. -/
theorem encodeInto_struct_of_isVacant (config : Config) {field : Field} {value : Value}
    (h : field.IsVacant value) (hleft : ¬ field.IsLeftOut value) (p : Params) :
    (Value.struct [(field, value)]).encodeInto config p = (.ok (), p.add field.name "") := by
  rw [encodeInto_struct, fieldSteps_of_isVacant _ _ _ h hleft, outcome_write, Outcome.andThen_ok,
    promotedSteps_of_not_promotes _ _ _ h.not_promotes, outcome_nil, ScopeJoin.join_empty]

end Encoding

open Encoding

/--
**A vacant field is encoded under its declared name.**

* Anywhere in a value, a vacant field that is left out can be dropped, and any other be replaced by
  a plain field of its declared name that holds the empty text: the result is the same, and so are
  the parameters that are left.
* Alone in a root struct, a vacant field that is not left out adds the empty text under its declared
  name and nothing else.
-/
theorem Value.encodeInto_vacant (config : Config) (p : Params) :
    (∀ v w : Value, v.Replaced Field.VacantAs w → w.encodeInto config p = v.encodeInto config p) ∧
      ∀ (field : Field) (value : Value), field.IsVacant value → ¬ field.IsLeftOut value →
        (Value.struct [(field, value)]).encodeInto config p = (.ok (), p.add field.name "") :=
  ⟨fun _ _ h => encodeInto_replaced keepsSteps_vacantAs config h p,
    fun _ _ h hleft => encodeInto_struct_of_isVacant config h hleft p⟩

/-- Two vacant fields that write, one of them in a nested struct, and one that is left out. -/
theorem Value.encodeInto_vacant_nested :
    let base : Field := { name := "base", embedded := true, exported := false }
    let gone : Field := { name := "gone", tag := ",omitempty", embedded := true }
    let kept : Field := { name := "kept", tag := ",omitempty,comma", embedded := true }
    let present := Value.pointer .present (.absent none)
    let v := Value.struct [({ name := "n" }, .struct [(base, .absent none)]),
      (gone, .absent none), (kept, present)]
    let w := Value.struct [({ name := "n" }, .struct [({ name := "base" }, .text "")]),
      ({ name := "kept" }, .text "")]
    v.Replaced Field.VacantAs w ∧ w.encodeInto {} Params.empty = v.encodeInto {} Params.empty ∧
      kept.IsVacant present ∧ ¬ kept.IsLeftOut present ∧
      (Value.struct [(kept, present)]).encodeInto {} Params.empty
        = (.ok (), Params.empty.add "kept" "") ∧
      v.encodeInto {} Params.empty = (.ok (), Params.ofPairs [("n[base]", ""), ("kept", "")]) := by
  intro base gone kept present v w
  have hkept : kept.IsVacant present := ⟨rfl, by decide, rfl⟩
  have hwrites : ¬ kept.IsLeftOut present := by
    rintro ((h | ⟨h, -⟩) | ⟨-, h⟩)
    · exact absurd h (by decide)
    · cases h
    · cases h
  have hbase : Field.VacantAs (base, .absent none) [({ name := "base" }, .text "")] := by
    refine .emptyText ⟨rfl, rfl, rfl⟩ ?_
    rintro ((h | ⟨-, h⟩) | ⟨h, -⟩)
    · exact absurd h (by decide)
    · cases h
    · cases h
  have hgone : Field.VacantAs (gone, .absent none) [] :=
    .nothing ⟨rfl, by decide, rfl⟩ (.inr ⟨by decide, rfl⟩)
  have hlast : Field.VacantAs (kept, present) [({ name := "kept" }, .text "")] :=
    .emptyText hkept hwrites
  have h : v.Replaced Field.VacantAs w :=
    .struct (.cons _ (.struct (.others hbase .nil)) (.others hgone (.others hlast .nil)))
  have hw : w.encodeInto {} Params.empty
      = (.ok (), Params.ofPairs [("n[base]", ""), ("kept", "")]) := by rfl
  have hvacant := Value.encodeInto_vacant {} Params.empty
  have hv := hvacant.1 v w h
  exact ⟨h, hv, hkept, hwrites, hvacant.2 kept present hkept hwrites, hv.symm.trans hw⟩

/-- A root with a vacant field is not encoded as the root without the field. -/
theorem Value.encodeInto_vacant_written :
    let field : Field := { name := "base", embedded := true }
    field.IsVacant (.absent none) ∧
      (Value.struct [(field, .absent none)]).encodeInto {} Params.empty
        = (.ok (), Params.ofPairs [("base", "")]) ∧
      (Value.struct []).encodeInto {} Params.empty = (.ok (), Params.empty) ∧
      (Value.struct [(field, .absent none)]).encodeInto {} Params.empty
        ≠ (Value.struct []).encodeInto {} Params.empty := by
  intro field
  have hfield : (Value.struct [(field, .absent none)]).encodeInto {} Params.empty
      = (.ok (), Params.ofPairs [("base", "")]) := by rfl
  have hwithout : (Value.struct []).encodeInto {} Params.empty = (.ok (), Params.empty) := by rfl
  refine ⟨⟨rfl, rfl, rfl⟩, hfield, hwithout, ?_⟩
  rw [hfield, hwithout]
  nofun

end UrlQuery
