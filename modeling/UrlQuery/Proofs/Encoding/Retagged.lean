import Mathlib.Logic.Relation
import UrlQuery.Proofs.Encoding.Replaced
import UrlQuery.Proofs.Field.Tag

/-!
# Tags with their options in another order

All that the rules of a field ask of the options in its tag is whether an option is there, what the
value of a key is, and which join style comes first. Where no key stands twice, the order of the
options shows in the last question alone, and only through the flags of join styles.

So such options can be put in another order, if these flags stay in theirs: the field keeps its
rules (`Field.rules_of_reordered`), and a value with such fields, in any of its structs and at any
depth, is encoded as it was (`Value.encodeInto_retagged`).
-/

namespace UrlQuery

/-! ## The rules of a field by answers -/

namespace TagOptions.SameAnswers

variable {a b : TagOptions}

theorem layoutOf_eq (h : a.SameAnswers b) (field : Field) : field.layoutOf a = field.layoutOf b := by
  rw [Field.layoutOf, Field.layoutOf, h.get?]

theorem delimiterOf_eq (h : a.SameAnswers b) (field : Field) :
    field.delimiterOf a = field.delimiterOf b := by
  rw [Field.delimiterOf, Field.delimiterOf, h.get?]

theorem timeFormat_eq (h : a.SameAnswers b) (layout : Option String) :
    a.timeFormat layout = b.timeFormat layout := by
  unfold timeFormat
  simp only [h.contains]

theorem seqLayout_eq (h : a.SameAnswers b) : a.seqLayout = b.seqLayout := by
  unfold seqLayout numbered indexed
  simp only [h.joinStyle?, h.contains]

/-- The rules ask of the options nothing else. -/
theorem rulesOf_eq (h : a.SameAnswers b) (field : Field) (name : String) :
    field.rulesOf (.spec name a) = field.rulesOf (.spec name b) := by
  unfold Field.rulesOf Tag.options omitEmpty inline int
  simp only [h.layoutOf_eq, h.delimiterOf_eq, h.timeFormat_eq, h.seqLayout_eq, h.contains]
  rfl

end TagOptions.SameAnswers

/-! ## Reordered tags -/

namespace Tag

/--
The second tag is the first with what stands behind its name in another order. No key stands twice,
and the flags of join styles stay in their order.
-/
structure Reordered (raw raw' : String) : Prop where
  name_eq : (parts raw').head? = (parts raw).head?
  options_perm : (parts raw').tail.Perm (parts raw).tail
  keys_nodup : ((parse raw).options.map (·.1)).Nodup
  joinFlags_eq : (parse raw').options.joinFlags = (parse raw).options.joinFlags

theorem eq_of_parts_eq {raw raw' : String} (h : parts raw = parts raw') : raw = raw' := by
  have hlist := congrArg (List.intercalate [',']) h
  rw [parts, parts, List.intercalate_splitOn, List.intercalate_splitOn] at hlist
  exact String.toList_inj.1 hlist

/-- A tag without options has no other order. -/
theorem eq_dash_of_parts_perm {raw raw' : String} {name : List Char}
    {tokens tokens' : List (List Char)} (h : parts raw = name :: tokens)
    (h' : parts raw' = name :: tokens')
    (hperm : tokens'.Perm tokens) (hdash : raw = "-") : raw' = "-" := by
  have hone : parts "-" = [['-']] := by decide
  rw [hdash, hone] at h
  obtain ⟨rfl, rfl⟩ := List.cons.inj h
  rw [hperm.eq_nil, ← hone] at h'
  exact eq_of_parts_eq h'

theorem Reordered.exists_parts {raw raw' : String} (h : Reordered raw raw') :
    ∃ name tokens tokens', parts raw = name :: tokens ∧ parts raw' = name :: tokens' ∧
      tokens'.Perm tokens := by
  obtain ⟨name, tokens, hparts⟩ := Tag.exists_parts raw
  obtain ⟨name', tokens', hparts'⟩ := Tag.exists_parts raw'
  have hname := h.name_eq
  have hperm := h.options_perm
  rw [hparts, hparts'] at hname hperm
  obtain rfl : name' = name := by simpa using hname
  exact ⟨name', tokens, tokens', hparts, hparts', hperm⟩

/-- A reordered tag is read as the same name, and options that give the same answers. -/
theorem Reordered.parse_cases {raw raw' : String} (h : Reordered raw raw') :
    parse raw' = parse raw ∨ ∃ name options options', parse raw = spec name options ∧
      parse raw' = spec name options' ∧ options'.SameAnswers options := by
  obtain ⟨name, tokens, tokens', hparts, hparts', hperm⟩ := h.exists_parts
  -- The tag that takes a field out is a single part, so both tags are it or neither is.
  by_cases hdash : raw = "-"
  · left
    rw [eq_dash_of_parts_perm hparts hparts' hperm hdash, hdash]
  · right
    have hdash' : raw' ≠ "-" := fun hraw' =>
      hdash (eq_dash_of_parts_perm hparts' hparts hperm.symm hraw')
    have hparse := parse_of_parts hdash hparts
    have hparse' := parse_of_parts hdash' hparts'
    refine ⟨_, _, _, hparse, hparse', ?_⟩
    have hnodup := h.keys_nodup
    have hflags := h.joinFlags_eq
    rw [hparse] at hnodup hflags
    rw [hparse'] at hflags
    exact TagOptions.sameAnswers_of_perm ((hperm.filter _).map _) hnodup hflags

end Tag

/-- **A field keeps its rules where the options of its tag are reordered.** -/
theorem Field.rules_of_reordered {field : Field} {raw : String}
    (h : Tag.Reordered field.tag raw) : { field with tag := raw }.rules = field.rules := by
  show field.rulesOf (Tag.parse raw) = field.rulesOf (Tag.parse field.tag)
  rcases h.parse_cases with heq | ⟨name, options, options', hfield, hraw, hanswers⟩
  · rw [heq]
  · rw [hfield, hraw, hanswers.rulesOf_eq]

/-- A field with the options of its tag in another order stands in its place. -/
inductive Field.Retagged : Field.Replacement where
  | reordered {field : Field} {raw : String} (h : Tag.Reordered field.tag raw) (value : Value) :
    Retagged (field, value) [({ field with tag := raw }, value)]

namespace Encoding

/-- A walk reads of a field its rules, its declared name, and whether it is embedded. -/
theorem sameSteps_of_rules_eq {a b : Field} (hname : a.name = b.name)
    (hembedded : a.embedded = b.embedded) (hrules : a.rules = b.rules) (value : Value) :
    Field.SameSteps [(a, value)] [(b, value)] := by
  have hpromotes : a.promotes value = b.promotes value := by
    rw [Field.promotes, Field.promotes, hembedded, hrules]
  have hqueryName : a.queryName = b.queryName := by
    rw [Field.queryName, Field.queryName, hname, hrules]
  refine ⟨fun join scope level => ?_, fun join scope level => ?_⟩
  · simp only [fieldSteps, hrules, hpromotes, hqueryName]
  · simp only [promotedSteps, hrules, hpromotes]

theorem keepsSteps_retagged : Field.Replacement.KeepsSteps Field.Retagged := by
  intro entry others h
  obtain ⟨h, value⟩ := h
  have hrules := Field.rules_of_reordered h
  refine sameSteps_of_rules_eq ?_ ?_ hrules.symm value
  · rfl
  · rfl

end Encoding

open Encoding

/--
**The order of the options in a tag does not show**, but for the flags of join styles.

* A field keeps all its rules where the options of its tag are reordered.
* So a value gives the same result, and leaves the same parameters, where this is done to fields in
  it: in any number of steps, each to any fields in the structs in the value, at any depth.
-/
theorem Value.encodeInto_retagged :
    (∀ (field : Field) (raw : String), Tag.Reordered field.tag raw →
      { field with tag := raw }.rules = field.rules) ∧
    ∀ v w : Value, Relation.ReflTransGen (Replaced Field.Retagged) v w →
      ∀ (config : Config) (p : Params), w.encodeInto config p = v.encodeInto config p := by
  refine ⟨fun _ _ h => Field.rules_of_reordered h, fun v w h config p => ?_⟩
  induction h with
  | refl => rfl
  | tail _ hstep ih => exact (encodeInto_replaced keepsSteps_retagged config hstep p).trans ih

/-- Fields of a struct in a map in a struct, with options that all have a say in how they are
written. -/
theorem Value.encodeInto_retagged_nested :
    let outer : Field := { name := "o", tag := ",numbered,,comma:x,omitempty,space,int" }
    let inner : Field := { name := "i", tag := "n,unixnano,layout:%Y,idx,inline,unix" }
    let outerTag := ",int,comma:x,space,omitempty,numbered,"
    let innerTag := "n,idx,unix,layout:%Y,unixnano,inline"
    let flags := Value.seq [.bool true, .bool false]
    let times := Value.seq [.time { secs := 1 }, .time { secs := 2 }]
    let value (outer inner : Field) := Value.struct [(outer, flags),
      ({ name := "m" }, .map [(.text "k", .struct [(inner, times)])])]
    let v := value outer inner
    let w := value { outer with tag := outerTag } { inner with tag := innerTag }
    Tag.Reordered outer.tag outerTag ∧ Tag.Reordered inner.tag innerTag ∧
      { inner with tag := innerTag }.rules = inner.rules ∧
      Relation.ReflTransGen (Replaced Field.Retagged) v w ∧
      w.encodeInto {} Params.empty = v.encodeInto {} Params.empty ∧
      v.encodeInto {} Params.empty
        = (.ok (), Params.ofPairs [("o", "1,0"), ("m[k][n][0]", "1"), ("m[k][n][1]", "2")]) := by
  intro outer inner outerTag innerTag flags times value v w
  have houter : Tag.Reordered outer.tag outerTag := by
    constructor <;> decide
  have hinner : Tag.Reordered inner.tag innerTag := by
    constructor <;> decide
  have hflags : Field.Retagged (outer, flags) [({ outer with tag := outerTag }, flags)] :=
    .reordered houter flags
  have htimes : Field.Retagged (inner, times) [({ inner with tag := innerTag }, times)] :=
    .reordered hinner times
  have hstep : v.Replaced Field.Retagged w :=
    .struct (.others hflags
      (.cons _ (.map (.cons (.same _) (.struct (.others htimes .nil)) .nil)) .nil))
  have h : Relation.ReflTransGen (Replaced Field.Retagged) v w := .single hstep
  refine ⟨houter, hinner, Value.encodeInto_retagged.1 inner innerTag hinner, h,
    Value.encodeInto_retagged.2 v w h {} Params.empty, ?_⟩
  simp only [v, value, outer, inner, flags, times]
  rfl

end UrlQuery
