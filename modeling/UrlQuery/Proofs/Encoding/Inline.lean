import UrlQuery.Proofs.Encoding.Level
import UrlQuery.Proofs.Encoding.Reordered
import UrlQuery.Proofs.Encoding.Scope

/-!
# Inlined values

A field that inlines its value opens no scope for it. So a struct of one such field is a wrapper
that does not show: it is encoded as its value is, one level further down
(`Value.encodeInto_inlined`). But an annotation of the field shows in the entries of a map
(`Value.encodeInto_inlined_annotated`).

A struct can also be promoted by the field that holds it. Where it is inlined, it is visited among
the fields and one level further down; where it is promoted, after them and at the level of the
struct around it. In both cases its walk does the same steps in the same scope, so the same pairs
are written in another order, and the inlined struct needs one level more
(`Value.encode_inlined_flattened`).
-/

namespace UrlQuery

/-! ## Tags -/

theorem Tag.parse_inline : Tag.parse ",inline" = .spec "" [("inline", "")] := by decide

theorem Tag.parse_empty : Tag.parse "" = .spec "" [] := by decide

/-- The field, with a tag that inlines its value and says nothing else. -/
def Field.inlined (field : Field) : Field :=
  { field with tag := ",inline", embedded := false }

/-- The field, embedded and without a tag. -/
def Field.flattened (field : Field) : Field :=
  { field with tag := "", embedded := true }

/--
All that the field does with the value is to inline it. An annotation of the field would show in the
entries of a map; the fields of a struct have rules of their own.
-/
structure Field.InlinesOnly (field : Field) (value : Value) : Prop where
  tag_eq : field.tag = ",inline"
  exported_eq : field.exported = true
  embedded_eq : field.embedded = false
  unannotated : value.isStruct = true ∨
    (nonEmpty? field.layout = none ∧ nonEmpty? field.delimiter = none)

/-- The value stands in `n` structs, each in the other, whose one field does nothing but inline. -/
inductive Value.Inlined (value : Value) : Nat → Value → Prop where
  | none : Inlined value 0 value
  | wrap {n : Nat} {inner : Value} (h : Inlined value n inner) {field : Field}
    (hfield : field.InlinesOnly inner) : Inlined value (n + 1) (.struct [(field, inner)])

/-- The rules of a field whose tag inlines. -/
theorem Field.rules_of_inline {field : Field} (htag : field.tag = ",inline")
    (hexported : field.exported = true) :
    field.rules.skipped = false ∧ field.rules.omitEmpty = false ∧ field.rules.inline = true := by
  simp [rules, rulesOf, htag, hexported, Tag.parse_inline, Tag.isSkip, Tag.options, Tag.hasName,
    Tag.name, TagOptions.omitEmpty, TagOptions.inline, TagOptions.contains]

theorem Field.promotes_of_not_embedded {field : Field} (h : field.embedded = false)
    (value : Value) : field.promotes value = false := by
  rw [promotes, h]
  rfl

/-- Without an annotation, such a field has the style of values that stand in no field. -/
theorem Field.style_of_inline {field : Field} (htag : field.tag = ",inline")
    (hlayout : nonEmpty? field.layout = none) (hdelimiter : nonEmpty? field.delimiter = none) :
    field.rules.style = {} := by
  have hlayoutOf : field.layoutOf [("inline", "")] = none := by rw [layoutOf, hlayout]; rfl
  have hdelimiterOf : field.delimiterOf [("inline", "")] = none := by
    rw [delimiterOf, hdelimiter]; rfl
  rw [FieldRules.style, rules, rulesOf, htag, Tag.parse_inline]
  simp only [Tag.options, hlayoutOf, hdelimiterOf]
  rfl

namespace Encoding

/-! ## Containers in fields -/

/-- A struct is visited as in place, one level down, whatever the style it stands in. -/
theorem valueSteps_of_isStruct (join : ScopeJoin) (style : Style) (place : Place)
    (scope key : String) (level : Nat) :
    ∀ value : Value, value.isStruct = true →
      valueSteps join style place scope key level value = inPlaceSteps join scope (level + 1) value
  | .struct _, _ => by rw [valueSteps, inPlaceSteps]
  | .pointer _ value, h => by
    rw [valueSteps, inPlaceSteps]
    exact valueSteps_of_isStruct join style place scope key level value h

/-- The steps of a field that inlines. -/
theorem fieldSteps_of_inline (join : ScopeJoin) (scope : String) (level : Nat) {field : Field}
    (htag : field.tag = ",inline") (hexported : field.exported = true)
    (hembedded : field.embedded = false) (value : Value) :
    fieldSteps join scope level [(field, value)]
      = valueSteps join field.rules.style .slot scope (join.join scope field.queryName) level
          value := by
  obtain ⟨hskipped, homit, hinline⟩ := Field.rules_of_inline htag hexported
  have hpromotes := Field.promotes_of_not_embedded hembedded value
  rw [fieldSteps_of_visited join scope level hskipped hpromotes (by rw [homit, Bool.false_and]),
    if_pos hinline]

/-- A container in such a field is visited as in place, one level down. -/
theorem fieldSteps_of_inlinesOnly (join : ScopeJoin) (scope : String) (level : Nat)
    {field : Field} {value : Value} (h : field.InlinesOnly value)
    (hcontainer : value.isContainer = true) :
    fieldSteps join scope level [(field, value)] = inPlaceSteps join scope (level + 1) value := by
  rw [fieldSteps_of_inline join scope level h.tag_eq h.exported_eq h.embedded_eq]
  rcases h.unannotated with hstruct | ⟨hlayout, hdelimiter⟩
  · exact valueSteps_of_isStruct join _ _ _ _ level value hstruct
  · rw [Field.style_of_inline h.tag_eq hlayout hdelimiter]
    exact valueSteps_of_isContainer join _ _ level value hcontainer

/-! ## Wrappers -/

/-- A wrapper does what its value does at the root, one level further down. -/
theorem encodeInto_wrapper (config : Config) {field : Field} {value : Value}
    (h : field.InlinesOnly value) (hcontainer : value.isContainer = true) (p : Params) :
    (Value.struct [(field, value)]).encodeInto (config.lower 1) p
      = Outcome.lowerLimit 1 (value.encodeInto config p) := by
  have hsteps : fieldSteps config.scopeJoin "" 0 [(field, value)]
      = (rootSteps config.scopeJoin value).map (Step.lower 1) := by
    rw [fieldSteps_of_inlinesOnly config.scopeJoin "" 0 h hcontainer,
      inPlaceSteps_add config.scopeJoin "" 0 1 value,
      rootSteps_of_isContainer config.scopeJoin value hcontainer]
  have hpromoted := promotedSteps_of_not_promotes config.scopeJoin "" 0
    (Field.promotes_of_not_embedded h.embedded_eq value)
  rw [encodeInto_struct, Value.encodeInto_eq]
  simp only [Config.lower, hsteps, hpromoted]
  rw [outcome_lower]
  exact Outcome.andThen_done _

end Encoding

theorem Value.Inlined.isContainer {v w : Value} {n : Nat} (h : v.Inlined n w)
    (hv : v.isContainer = true) : w.isContainer = true := by
  cases h with
  | none => exact hv
  | wrap _ _ => rfl

theorem Outcome.lowerLimit_zero (outcome : Outcome) : outcome.lowerLimit 0 = outcome := by
  obtain ⟨e | _, p⟩ := outcome
  · cases e <;> rfl
  · rfl

theorem Outcome.lowerLimit_lowerLimit (m n : Nat) (outcome : Outcome) :
    (outcome.lowerLimit m).lowerLimit n = outcome.lowerLimit (m + n) := by
  obtain ⟨e | _, p⟩ := outcome
  · cases e with
    | depthLimit key limit =>
      show (Except.error (Error.depthLimit key (limit + m + n)), p) = _
      rw [Nat.add_assoc]
      rfl
    | unsupportedKind _ | customEncoder _ _ | invalidUrl _ => rfl
  · rfl

open Encoding

/--
**An inlined value does not notice its wrappers.** Let a map or struct stand in `n` structs, each in
the other, whose one field does nothing but inline. Under a limit of `n` levels more it is encoded
as the map or struct alone: with the same parameters, and with the same error if there is one, but
for the limit that an error of the depth bears.
-/
theorem Value.encodeInto_inlined (config : Config) {v w : Value} {n : Nat} (h : v.Inlined n w)
    (hcontainer : v.isContainer = true) (p : Params) :
    w.encodeInto (config.lower n) p = Outcome.lowerLimit n (v.encodeInto config p) := by
  induction h with
  | none => exact (Outcome.lowerLimit_zero _).symm
  | wrap h hfield ih =>
    rw [← Outcome.lowerLimit_lowerLimit, ← ih]
    exact encodeInto_wrapper (config.lower _) hfield (h.isContainer hcontainer) p

/-- A map in two wrappers, with an entry that encodes itself and one below the limit. -/
theorem Value.encodeInto_inlined_twice :
    let v := Value.map [(.text "a", .custom (.ofWrites [.add ".x" "1"]) false),
      (.text "b", .map [(.text "c", .text "2")])]
    let w := Value.struct [({ name := "outer", tag := ",inline" },
      .struct [({ name := "inner", tag := ",inline" }, v)])]
    let config : Config := { maxDepth := 0 }
    v.Inlined 2 w ∧ v.isContainer = true ∧
      w.encodeInto (config.lower 2) Params.empty
        = Outcome.lowerLimit 2 (v.encodeInto config Params.empty) ∧
      w.encodeInto (config.lower 2) Params.empty
        = (.error (.depthLimit "b" 2), Params.ofPairs [("a.x", "1")]) := by
  intro v w config
  have hinner : Field.InlinesOnly { name := "inner", tag := ",inline" } v :=
    ⟨rfl, rfl, rfl, .inr ⟨rfl, rfl⟩⟩
  have houter : Field.InlinesOnly { name := "outer", tag := ",inline" }
      (.struct [({ name := "inner", tag := ",inline" }, v)]) := ⟨rfl, rfl, rfl, .inl rfl⟩
  have h : v.Inlined 2 w := .wrap (.wrap .none hinner) houter
  exact ⟨h, rfl, encodeInto_inlined config h rfl Params.empty, by rfl⟩

/-- The annotations of a field show in the entries of a map that it inlines: a delimiter joins the
values of each, and a layout sets their times. -/
theorem Value.encodeInto_inlined_annotated :
    let v := Value.map [(.text "a", .seq [.text "1", .text "2"]), (.text "t", .time { secs := 1 })]
    let delimited : Field := { name := "m", tag := ",inline", delimiter := some "|" }
    let timed : Field := { name := "m", tag := ",inline", layout := some "%Y" }
    let config : Config := { maxDepth := 0 }
    let alone := [("a", "1"), ("a", "2"), ("t", "1970-01-01T00:00:01Z")]
    v.isContainer = true ∧
      v.encodeInto config Params.empty = (.ok (), Params.ofPairs alone) ∧
      (Value.struct [(delimited, v)]).encodeInto (config.lower 1) Params.empty
        = (.ok (), Params.ofPairs [("a", "1|2"), ("t", "1970-01-01T00:00:01Z")]) ∧
      (Value.struct [(timed, v)]).encodeInto (config.lower 1) Params.empty
        = (.ok (), Params.ofPairs [("a", "1"), ("a", "2"), ("t", "1970")]) ∧
      ∀ field ∈ [delimited, timed],
        field.tag = ",inline" ∧ field.exported = true ∧ field.embedded = false ∧
          (Value.struct [(field, v)]).encodeInto (config.lower 1) Params.empty
            ≠ Outcome.lowerLimit 1 (v.encodeInto config Params.empty) := by
  intro v delimited timed config alone
  have hv : v.encodeInto config Params.empty = (.ok (), Params.ofPairs alone) := by rfl
  have hdelimited : (Value.struct [(delimited, v)]).encodeInto (config.lower 1) Params.empty
      = (.ok (), Params.ofPairs [("a", "1|2"), ("t", "1970-01-01T00:00:01Z")]) := by
    decide +kernel
  have htimed : (Value.struct [(timed, v)]).encodeInto (config.lower 1) Params.empty
      = (.ok (), Params.ofPairs [("a", "1"), ("a", "2"), ("t", "1970")]) := by
    decide +kernel
  refine ⟨rfl, hv, hdelimited, htimed, fun field hfield => ?_⟩
  simp only [List.mem_cons, List.not_mem_nil, or_false] at hfield
  rcases hfield with rfl | rfl
  · rw [hv, hdelimited]
    exact ⟨rfl, rfl, rfl, by decide⟩
  · rw [hv, htimed]
    exact ⟨rfl, rfl, rfl, by decide⟩

namespace Encoding

/-! ## Inlined and promoted structs -/

/-- What stands in the middle may be put behind. -/
theorem perm_append_middle (a x b : List Step) : (a ++ (x ++ b)).Perm (a ++ b ++ x) := by
  rw [List.append_assoc]
  exact List.perm_append_comm.append_left a

/-- A field among others adds its own steps to theirs. -/
theorem rootSteps_struct_perm (join : ScopeJoin) (before after : List (Field × Value))
    (entry : Field × Value) :
    (rootSteps join (.struct (before ++ entry :: after))).Perm
      (rootSteps join (.struct (before ++ after)) ++
        (fieldSteps join "" 0 [entry] ++ promotedSteps join "" 0 [entry])) := by
  rw [← List.singleton_append (l := after)]
  simp only [rootSteps, inPlaceSteps, fieldSteps_append, promotedSteps_append]
  generalize fieldSteps join "" 0 [entry] = x, promotedSteps join "" 0 [entry] = y
  generalize fieldSteps join "" 0 before = a, fieldSteps join "" 0 after = b
  generalize promotedSteps join "" 0 before = c, promotedSteps join "" 0 after = d
  have hinner : (a ++ (x ++ b) ++ (c ++ (y ++ d))).Perm (a ++ b ++ (c ++ d) ++ (x ++ y)) := by
    refine ((perm_append_middle a x b).append (perm_append_middle c y d)).trans ?_
    have hmiddle := (perm_append_middle (a ++ b) x (c ++ d)).append_right y
    simpa only [List.append_assoc] using hmiddle
  refine (perm_enclosed hinner "" 0).trans ?_
  have hends := perm_append_middle (.enter "" 0 :: (a ++ b ++ (c ++ d))) (x ++ y) [.leave]
  simpa only [List.cons_append, List.append_assoc] using hends

variable (join : ScopeJoin) (before after : List (Field × Value)) {field : Field} {value : Value}

/-- An inlined struct adds the steps that it does in place, one level further down. -/
theorem rootSteps_inlined_perm (hexported : field.exported = true)
    (hstruct : value.isStruct = true) :
    (rootSteps join (.struct (before ++ (field.inlined, value) :: after))).Perm
      (rootSteps join (.struct (before ++ after)) ++
        (inPlaceSteps join "" 0 value).map (Step.lower 1)) := by
  have hfields : fieldSteps join "" 0 [(field.inlined, value)]
      = (inPlaceSteps join "" 0 value).map (Step.lower 1) := by
    have hsteps := @fieldSteps_of_inline join "" 0 field.inlined rfl hexported rfl value
    rw [hsteps, valueSteps_of_isStruct join _ _ _ _ 0 value hstruct,
      inPlaceSteps_add join "" 0 1 value]
  have hpromoted : promotedSteps join "" 0 [(field.inlined, value)] = [] :=
    promotedSteps_of_not_promotes join "" 0 (Field.promotes_of_not_embedded rfl value)
  have hperm := rootSteps_struct_perm join before after (field.inlined, value)
  rwa [hfields, hpromoted, List.append_nil] at hperm

/-- A promoted struct adds the steps that it does in place. -/
theorem rootSteps_flattened_perm (field : Field) (hstruct : value.isStruct = true) :
    (rootSteps join (.struct (before ++ (field.flattened, value) :: after))).Perm
      (rootSteps join (.struct (before ++ after)) ++ inPlaceSteps join "" 0 value) := by
  have hskipped : field.flattened.rules.skipped = false := by
    simp [Field.rules, Field.rulesOf, Field.flattened, Tag.parse_empty, Tag.isSkip]
  have hpromotes : field.flattened.promotes value = true := by
    simp [Field.promotes, Field.rules, Field.rulesOf, Field.flattened, Tag.parse_empty, Tag.name?,
      Tag.hasName, Tag.name, hstruct]
  have hfields : fieldSteps join "" 0 [(field.flattened, value)] = [] :=
    fieldSteps_of_passed join "" 0 (by simp [hpromotes])
  have hpromoted : promotedSteps join "" 0 [(field.flattened, value)]
      = inPlaceSteps join "" 0 value := by
    rw [promotedSteps, promotedSteps, if_pos (by simp [hskipped, hpromotes]), List.append_nil]
  have hperm := rootSteps_struct_perm join before after (field.flattened, value)
  rwa [hfields, hpromoted, List.nil_append] at hperm

/-! ### What such structs are encoded as -/

theorem visited_le_iff_of_perm {steps a b : List Step} (h : steps.Perm (a ++ b)) {limit : Nat} :
    (∀ c ∈ visited steps, c.2 ≤ limit) ↔
      (∀ c ∈ visited a, c.2 ≤ limit) ∧ ∀ c ∈ visited b, c.2 ≤ limit := by
  have hmem : ∀ c, c ∈ visited steps ↔ c ∈ visited a ∨ c ∈ visited b := by
    intro c
    rw [visited, (h.filterMap Step.container?).mem_iff, List.filterMap_append, List.mem_append]
    rfl
  simp only [hmem, or_imp, forall_and]

/-- Steps that are one level further down need a limit of one level more. -/
theorem visited_lower_le_iff {steps : List Step} {limit : Nat} :
    (∀ c ∈ visited (steps.map (Step.lower 1)), c.2 ≤ limit) ↔
      ∀ c ∈ visited steps, c.2 + 1 ≤ limit := by
  rw [visited_lower, List.forall_mem_map]

/-- An inlined struct needs one level more than it does in place. -/
theorem visited_inlined_le_iff (hexported : field.exported = true)
    (hstruct : value.isStruct = true) {limit : Nat} :
    (∀ c ∈ visited (rootSteps join (.struct (before ++ (field.inlined, value) :: after))),
        c.2 ≤ limit) ↔
      (∀ c ∈ visited (rootSteps join (.struct (before ++ after))), c.2 ≤ limit) ∧
        ∀ c ∈ visited (inPlaceSteps join "" 0 value), c.2 + 1 ≤ limit := by
  rw [visited_le_iff_of_perm (rootSteps_inlined_perm join before after hexported hstruct),
    visited_lower_le_iff]

/-- A promoted struct needs the levels that it does in place. -/
theorem visited_flattened_le_iff (field : Field) (hstruct : value.isStruct = true) {limit : Nat} :
    (∀ c ∈ visited (rootSteps join (.struct (before ++ (field.flattened, value) :: after))),
        c.2 ≤ limit) ↔
      (∀ c ∈ visited (rootSteps join (.struct (before ++ after))), c.2 ≤ limit) ∧
        ∀ c ∈ visited (inPlaceSteps join "" 0 value), c.2 ≤ limit :=
  visited_le_iff_of_perm (rootSteps_flattened_perm join before after field hstruct)

/--
Let two values without encoders write the same pairs, each in its own order. If the one is encoded
and the limit of the other is no obstacle, the other is encoded with the same values of each key.
-/
theorem exists_encode_of_perm (config config' : Config) {v w : Value}
    (hv : ∀ step ∈ rootSteps config.scopeJoin v, step.Within [])
    (hw : ∀ step ∈ rootSteps config'.scopeJoin w, step.Within [])
    (hwritten : (written (rootSteps config.scopeJoin v)).Perm
      (written (rootSteps config'.scopeJoin w)))
    (hlevels : (∀ c ∈ visited (rootSteps config.scopeJoin v), c.2 ≤ config.maxDepth) →
      ∀ c ∈ visited (rootSteps config'.scopeJoin w), c.2 ≤ config'.maxDepth)
    {a : Params} (ha : v.encode config = .ok a) :
    ∃ b, w.encode config' = .ok b ∧ ∀ key, (a.getAll key).Perm (b.getAll key) := by
  obtain ⟨hle, rfl⟩ := (encode_eq_ok_iff_of_within hv).1 ha
  refine ⟨_, (encode_eq_ok_iff_of_within hw).2 ⟨hlevels hle, rfl⟩, fun key => ?_⟩
  rw [Params.getAll_ofPairs, Params.getAll_ofPairs]
  exact Params.valuesUnder_perm hwritten key

/-- Which encoders stand in a struct does not hang on how its fields are declared. -/
theorem within_rootSteps_of_field
    (hplain : (Value.struct (before ++ (field, value) :: after)).encoders = []) (other : Field) :
    ∀ step ∈ rootSteps join (.struct (before ++ (other, value) :: after)), step.Within [] := by
  have hother : (Value.struct (before ++ (other, value) :: after)).encoders = [] := by
    rwa [Value.encoders, Value.fieldEncoders_append, Value.fieldEncoders] at hplain ⊢
  rw [← hother]
  exact within_rootSteps join _ rfl

/-- Inlined or promoted, a struct writes the same pairs. -/
theorem written_inlined_perm (hexported : field.exported = true)
    (hstruct : value.isStruct = true) :
    (written (rootSteps join (.struct (before ++ (field.inlined, value) :: after)))).Perm
      (written (rootSteps join (.struct (before ++ (field.flattened, value) :: after)))) := by
  have hinlined :=
    (rootSteps_inlined_perm join before after hexported hstruct).filterMap Step.pair?
  have hflattened :=
    (rootSteps_flattened_perm join before after field hstruct).filterMap Step.pair?
  have hlower := written_lower 1 (inPlaceSteps join "" 0 value)
  unfold written at hlower
  rw [List.filterMap_append, hlower, ← List.filterMap_append] at hinlined
  exact hinlined.trans hflattened.symm

end Encoding

/--
**Inlining a struct and promoting it write the same.** Let no encoder stand in a root struct, and
one of its fields hold a struct. If that struct is inlined and the root is encoded, it is encoded
with the struct promoted too; if it is promoted and the root is encoded, it is encoded with the
struct inlined under a limit of one level more. In both cases the values of each key are the same in
some order.
-/
theorem Value.encode_inlined_flattened (config : Config) (before after : List (Field × Value))
    {field : Field} {value : Value} (hexported : field.exported = true)
    (hstruct : value.isStruct = true)
    (hplain : (Value.struct (before ++ (field, value) :: after)).encoders = []) :
    (∀ a, (Value.struct (before ++ (field.inlined, value) :: after)).encode config = .ok a →
      ∃ b, (Value.struct (before ++ (field.flattened, value) :: after)).encode config = .ok b ∧
        ∀ key, (a.getAll key).Perm (b.getAll key)) ∧
    (∀ b, (Value.struct (before ++ (field.flattened, value) :: after)).encode config = .ok b →
      ∃ a, (Value.struct (before ++ (field.inlined, value) :: after)).encode (config.lower 1)
          = .ok a ∧
        ∀ key, (b.getAll key).Perm (a.getAll key)) := by
  have hwithin := within_rootSteps_of_field config.scopeJoin before after hplain
  have hwritten := written_inlined_perm config.scopeJoin before after hexported hstruct
  have hinlined := @visited_inlined_le_iff config.scopeJoin before after field value hexported
    hstruct
  have hflattened := @visited_flattened_le_iff config.scopeJoin before after value field hstruct
  constructor
  · refine fun a => exists_encode_of_perm config config (hwithin _) (hwithin _) hwritten
      fun hle => ?_
    obtain ⟨hothers, hinner⟩ := hinlined.1 hle
    exact hflattened.2 ⟨hothers, fun c hc => Nat.le_of_succ_le (hinner c hc)⟩
  · refine fun b => exists_encode_of_perm config (config.lower 1) (hwithin _) (hwithin _)
      hwritten.symm fun hle => ?_
    obtain ⟨hothers, hinner⟩ := hflattened.1 hle
    exact hinlined.2 ⟨fun c hc => Nat.le_succ_of_le (hothers c hc),
      fun c hc => Nat.succ_le_succ (hinner c hc)⟩

/-- A struct between two fields of the same name as one of its own. -/
theorem Value.encode_inlined_flattened_between :
    let before := [(({ name := "v" } : Field), Value.text "1")]
    let after := [(({ name := "v" } : Field), Value.text "3")]
    let field : Field := { name := "base" }
    let value := Value.pointer .boxed (.struct [({ name := "v" }, .text "2")])
    let inlined := Value.struct (before ++ (field.inlined, value) :: after)
    let flattened := Value.struct (before ++ (field.flattened, value) :: after)
    let config : Config := { maxDepth := 0 }
    field.exported = true ∧ value.isStruct = true ∧
      (Value.struct (before ++ (field, value) :: after)).encoders = [] ∧
      flattened.encode config = .ok (Params.ofPairs [("v", "1"), ("v", "3"), ("v", "2")]) ∧
      inlined.encode config = .error (.depthLimit "" 0) ∧
      (∃ a, inlined.encode (config.lower 1) = .ok a ∧
        ∀ key, ((Params.ofPairs [("v", "1"), ("v", "3"), ("v", "2")]).getAll key).Perm
          (a.getAll key)) ∧
      inlined.encode (config.lower 1)
        = .ok (Params.ofPairs [("v", "1"), ("v", "2"), ("v", "3")]) := by
  intro before after field value inlined flattened config
  have hfield : field.inlined = { name := "base", tag := ",inline" } := rfl
  have hflattened : flattened.encode config
      = .ok (Params.ofPairs [("v", "1"), ("v", "3"), ("v", "2")]) := by rfl
  have hlimit : inlined.encode config = .error (.depthLimit "" 0) := by
    simp only [inlined, hfield]
    rfl
  have hinlined : inlined.encode (config.lower 1)
      = .ok (Params.ofPairs [("v", "1"), ("v", "2"), ("v", "3")]) := by
    simp only [inlined, hfield]
    rfl
  have h := @encode_inlined_flattened config before after field value rfl rfl rfl
  exact ⟨rfl, rfl, rfl, hflattened, hlimit, h.2 _ hflattened, hinlined⟩

end UrlQuery
