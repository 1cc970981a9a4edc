import UrlQuery.Proofs.Encoding.Encoders

/-!
# Encoding in sequence

An encoding does one thing after the other and stops at the first error (`encodeInto_sequential`).
The fields of a struct that are not promoted come in their order, then the promoted structs in
theirs, each as if it were a root of its own; so an error in a field keeps the promoted structs
from being visited, also those declared before it. The entries of a map come in their order.

What was written before an error stays, and what comes after it leaves no trace: an encoding fails
just if some step fails on what the steps before it left (`outcome_eq_error_iff`).
-/

namespace UrlQuery

/-- The field takes part, is embedded, bears no name in its tag, and holds a struct. -/
def Field.isPromoted (entry : Field × Value) : Bool :=
  !entry.1.rules.skipped && entry.1.embedded && entry.1.rules.explicitName.isNone &&
    entry.2.isStruct

theorem Field.isPromoted_eq (field : Field) (value : Value) :
    Field.isPromoted (field, value) = (!field.rules.skipped && field.promotes value) := by
  simp only [Field.isPromoted, Field.promotes, Bool.and_assoc]

theorem Field.promotes_of_not_isStruct {field : Field} {value : Value}
    (h : value.isStruct = false) : field.promotes value = false := by
  rw [Field.promotes, h, Bool.and_false]

/-- Encodes values one after the other into the same parameters, up to the first error. -/
def Value.encodeAllInto (config : Config) : List Value → Params → Outcome
  | [], p => (.ok (), p)
  | value :: rest, p => Outcome.andThen (value.encodeInto config p) (encodeAllInto config rest)

/-- The step fails on parameters with an error, and leaves these. -/
def Step.Fails (limit : Nat) (p : Params) (e : Error) (left : Params) : Step → Prop
  | .custom encoder key =>
    ∃ source, encoder.run key p = (left, some source) ∧ e = .customEncoder key source
  | .enter scope level => limit < level ∧ e = .depthLimit scope limit ∧ left = p
  | .refuse kind => e = .unsupportedKind kind ∧ left = p
  | .write _ _ | .leave => False

namespace Encoding

/-! ## The first error -/

theorem outcome_step_eq_error_iff {limit : Nat} {step : Step} {p left : Params} {e : Error} :
    outcome limit [step] p = (.error e, left) ↔ step.Fails limit p e left := by
  cases step with
  | write key value => simp [Step.Fails]
  | custom encoder key =>
    rw [outcome_custom, CustomEncoder.outcome, Step.Fails]
    constructor
    · intro h
      cases hrun : encoder.run key p with
      | mk q failure =>
        rw [hrun] at h
        cases failure with
        | none => cases h
        | some source =>
          cases h
          exact ⟨source, rfl, rfl⟩
    · rintro ⟨source, hrun, rfl⟩
      rw [hrun]
  | enter scope level =>
    rw [outcome_enter, Step.Fails]
    split
    · next h => simp [h, eq_comm]
    · next h => simp [h]
  | leave => simp [Step.Fails]
  | refuse kind => simp [Step.Fails, eq_comm]

/-- **Steps fail just if one fails on what those before it left**, whatever follows it. -/
theorem outcome_eq_error_iff {limit : Nat} {steps : List Step} {p left : Params} {e : Error} :
    outcome limit steps p = (.error e, left) ↔
      ∃ before step after q, steps = before ++ step :: after ∧
        outcome limit before p = (.ok (), q) ∧ step.Fails limit q e left := by
  constructor
  · intro h
    induction steps generalizing p with
    | nil => simp at h
    | cons step rest ih =>
      rw [outcome_cons] at h
      cases hstep : outcome limit [step] p with
      | mk result q =>
        rw [hstep] at h
        cases result with
        | error e' =>
          -- This step is the one that fails, and nothing stands before it.
          rw [Outcome.andThen_error] at h
          rw [h] at hstep
          exact ⟨[], step, rest, p, rfl, rfl, outcome_step_eq_error_iff.1 hstep⟩
        | ok =>
          rw [Outcome.andThen_ok] at h
          obtain ⟨before, last, after, r, rfl, hbefore, hfails⟩ := ih h
          refine ⟨step :: before, last, after, r, rfl, ?_, hfails⟩
          rw [outcome_cons, hstep, Outcome.andThen_ok, hbefore]
  · rintro ⟨before, step, after, q, rfl, hbefore, hfails⟩
    rw [outcome_append, hbefore, Outcome.andThen_ok, outcome_cons,
      outcome_step_eq_error_iff.2 hfails, Outcome.andThen_error]

/-! ## Containers at the root -/

/-- Entering a container within the limit, and leaving it, change nothing. -/
theorem outcome_enclosed {scope : String} {limit level : Nat} (h : level ≤ limit)
    (steps : List Step) (p : Params) :
    outcome limit (.enter scope level :: steps ++ [.leave]) p = outcome limit steps p := by
  rw [List.cons_append, outcome_cons, outcome_enter, if_neg (Nat.not_lt.2 h), Outcome.andThen_ok,
    outcome_append]
  exact Outcome.andThen_done _

theorem encodeInto_struct (config : Config) (fields : List (Field × Value)) (p : Params) :
    (Value.struct fields).encodeInto config p
      = (outcome config.maxDepth (fieldSteps config.scopeJoin "" 0 fields) p).andThen
          (outcome config.maxDepth (promotedSteps config.scopeJoin "" 0 fields)) := by
  rw [Value.encodeInto_eq, rootSteps, inPlaceSteps, outcome_enclosed (Nat.zero_le _),
    outcome_append]

theorem encodeInto_map (config : Config) (entries : List (Value × Value)) (p : Params) :
    (Value.map entries).encodeInto config p
      = outcome config.maxDepth (entrySteps config.scopeJoin {} "" 0 entries) p := by
  rw [Value.encodeInto_eq, rootSteps, inPlaceSteps, outcome_enclosed (Nat.zero_le _)]

/-! ## Parts of a list -/

theorem fieldSteps_append (join : ScopeJoin) (scope : String) (level : Nat) :
    ∀ a b : List (Field × Value),
      fieldSteps join scope level (a ++ b)
        = fieldSteps join scope level a ++ fieldSteps join scope level b
  | [], _ => by simp [fieldSteps]
  | (field, value) :: a, b => by
    rw [List.cons_append, fieldSteps, fieldSteps, fieldSteps_append join scope level a b,
      List.append_assoc]

theorem promotedSteps_append (join : ScopeJoin) (scope : String) (level : Nat) :
    ∀ a b : List (Field × Value),
      promotedSteps join scope level (a ++ b)
        = promotedSteps join scope level a ++ promotedSteps join scope level b
  | [], _ => by simp [promotedSteps]
  | (field, value) :: a, b => by
    rw [List.cons_append, promotedSteps, promotedSteps, promotedSteps_append join scope level a b,
      List.append_assoc]

theorem entrySteps_append (join : ScopeJoin) (style : Style) (scope : String) (level : Nat) :
    ∀ a b : List (Value × Value),
      entrySteps join style scope level (a ++ b)
        = entrySteps join style scope level a ++ entrySteps join style scope level b
  | [], _ => by simp [entrySteps]
  | (name, value) :: a, b => by
    rw [List.cons_append, entrySteps, entrySteps, entrySteps_append join style scope level a b,
      List.append_assoc]

theorem elementSteps_append (join : ScopeJoin) (style : Style) (key : String) (level index : Nat)
    (a b : List Value) :
    elementSteps join style key level index (a ++ b)
      = elementSteps join style key level index a
        ++ elementSteps join style key level (index + a.length) b := by
  induction a generalizing index with
  | nil => rw [List.nil_append, elementSteps, List.nil_append, List.length_nil, Nat.add_zero]
  | cons value rest ih =>
    rw [List.cons_append, elementSteps, elementSteps, ih (index + 1), List.length_cons,
      List.append_assoc, Nat.add_assoc, Nat.add_comm 1]

/-! ### Single fields -/

/-- A field that is skipped, promoted or left out does nothing among the fields. -/
theorem fieldSteps_of_passed (join : ScopeJoin) (scope : String) (level : Nat) {field : Field}
    {value : Value} (h : (field.rules.skipped || field.promotes value ||
      (field.rules.omitEmpty && value.isEmpty)) = true) :
    fieldSteps join scope level [(field, value)] = [] := by
  rw [fieldSteps, fieldSteps, if_pos h, List.append_nil]

/-- Any other field does the steps of its value. -/
theorem fieldSteps_of_visited (join : ScopeJoin) (scope : String) (level : Nat) {field : Field}
    {value : Value} (hskipped : field.rules.skipped = false)
    (hpromotes : field.promotes value = false)
    (homit : (field.rules.omitEmpty && value.isEmpty) = false) :
    fieldSteps join scope level [(field, value)]
      = valueSteps join field.rules.style .slot
          (if field.rules.inline then scope else join.join scope field.queryName)
          (join.join scope field.queryName) level value := by
  rw [fieldSteps, fieldSteps, if_neg (by simp [hskipped, hpromotes, homit]), List.append_nil]

/-- Promoted fields have no steps among the fields. -/
theorem fieldSteps_filter (join : ScopeJoin) (scope : String) (level : Nat)
    (fields : List (Field × Value)) :
    fieldSteps join scope level (fields.filter fun entry => !Field.isPromoted entry)
      = fieldSteps join scope level fields := by
  induction fields with
  | nil => rfl
  | cons entry rest ih =>
    obtain ⟨field, value⟩ := entry
    by_cases hp : Field.isPromoted (field, value) = true
    · have hpromotes : field.promotes value = true := by
        rw [Field.isPromoted_eq, Bool.and_eq_true] at hp
        exact hp.2
      rw [List.filter_cons_of_neg (by simp [hp]), ih, fieldSteps, if_pos (by simp [hpromotes])]
      rfl
    · rw [List.filter_cons_of_pos (by simp [hp]), fieldSteps, ih, fieldSteps]

theorem promotedSteps_eq_nil (join : ScopeJoin) (scope : String) (level : Nat) :
    ∀ {fields : List (Field × Value)}, (∀ entry ∈ fields, Field.isPromoted entry = false) →
      promotedSteps join scope level fields = []
  | [], _ => by rw [promotedSteps]
  | (field, value) :: rest, h => by
    obtain ⟨hentry, hrest⟩ := List.forall_mem_cons.1 h
    rw [Field.isPromoted_eq] at hentry
    rw [promotedSteps, if_neg (by simp [hentry]), promotedSteps_eq_nil join scope level hrest]
    rfl

theorem promotedSteps_of_not_promotes (join : ScopeJoin) (scope : String) (level : Nat)
    {field : Field} {value : Value} (h : field.promotes value = false) :
    promotedSteps join scope level [(field, value)] = [] := by
  refine promotedSteps_eq_nil join scope level (List.forall_mem_singleton.2 ?_)
  rw [Field.isPromoted_eq, h, Bool.and_false]

/-- At the root a map or a struct is visited in place, behind pointers too. -/
theorem rootSteps_of_isContainer (join : ScopeJoin) :
    ∀ value : Value, value.isContainer = true →
      rootSteps join value = inPlaceSteps join "" 0 value
  | .map _, _ | .struct _, _ => rfl
  | .pointer _ value, h => by
    rw [rootSteps, inPlaceSteps]
    exact rootSteps_of_isContainer join value h

theorem isContainer_of_isStruct :
    ∀ value : Value, value.isStruct = true → value.isContainer = true
  | .struct _, _ => rfl
  | .pointer _ value, h => isContainer_of_isStruct value h

/-- No struct is empty, behind whatever pointers. -/
theorem isEmpty_of_isStruct : ∀ value : Value, value.isStruct = true → value.isEmpty = false
  | .struct _, _ => rfl
  | .pointer .reference value, h => isEmpty_of_isStruct value h
  | .pointer .present _, _ | .pointer .boxed _, _ | .pointer .shared _, _ => rfl

/-- At the root, the promoted structs are encoded each as a root of its own. -/
theorem outcome_promotedSteps (config : Config) :
    ∀ (fields : List (Field × Value)) (p : Params),
      outcome config.maxDepth (promotedSteps config.scopeJoin "" 0 fields) p
        = Value.encodeAllInto config ((fields.filter Field.isPromoted).map (·.2)) p
  | [], p => by rw [promotedSteps]; rfl
  | (field, value) :: rest, p => by
    have ih := outcome_promotedSteps config rest
    rw [promotedSteps, ← Field.isPromoted_eq, outcome_append]
    cases hp : Field.isPromoted (field, value) with
    | true =>
      have hstruct : value.isStruct = true := by
        rw [Field.isPromoted, Bool.and_eq_true] at hp
        exact hp.2
      -- In place at level 0 and in the empty scope is what a root is.
      rw [if_pos rfl, List.filter_cons_of_pos hp, List.map_cons, Value.encodeAllInto,
        Value.encodeInto_eq,
        rootSteps_of_isContainer _ value (isContainer_of_isStruct value hstruct)]
      congr 1
      funext q
      exact ih q
    | false =>
      rw [if_neg (by simp), List.filter_cons_of_neg (by simp [hp]), outcome_nil,
        Outcome.andThen_ok]
      exact ih p

theorem encodeInto_struct_of_not_promoted (config : Config) {fields : List (Field × Value)}
    (h : ∀ entry ∈ fields, Field.isPromoted entry = false) (p : Params) :
    (Value.struct fields).encodeInto config p
      = outcome config.maxDepth (fieldSteps config.scopeJoin "" 0 fields) p := by
  rw [encodeInto_struct, promotedSteps_eq_nil _ _ _ h]
  exact Outcome.andThen_done _

theorem encodeInto_struct_singleton (config : Config) (field : Field) {value : Value}
    (h : value.isStruct = false) (p : Params) :
    (Value.struct [(field, value)]).encodeInto config p
      = outcome config.maxDepth (fieldSteps config.scopeJoin "" 0 [(field, value)]) p := by
  have hfield : Field.isPromoted (field, value) = false := by
    rw [Field.isPromoted_eq, Field.promotes_of_not_isStruct h, Bool.and_false]
  exact encodeInto_struct_of_not_promoted config (List.forall_mem_singleton.2 hfield) p

theorem encodeInto_struct_promoted (config : Config) (fields : List (Field × Value)) (p : Params) :
    (Value.struct fields).encodeInto config p
      = Outcome.andThen
          ((Value.struct (fields.filter fun entry => !Field.isPromoted entry)).encodeInto config p)
          (Value.encodeAllInto config ((fields.filter Field.isPromoted).map (·.2))) := by
  have hrest : ∀ entry ∈ fields.filter fun entry => !Field.isPromoted entry,
      Field.isPromoted entry = false := by
    intro entry hentry
    simpa using (List.mem_filter.1 hentry).2
  rw [encodeInto_struct, encodeInto_struct_of_not_promoted config hrest, fieldSteps_filter]
  congr 1
  funext q
  exact outcome_promotedSteps config fields q

theorem encodeInto_struct_append (config : Config) {a b : List (Field × Value)}
    (h : ∀ entry ∈ a ++ b, Field.isPromoted entry = false) (p : Params) :
    (Value.struct (a ++ b)).encodeInto config p
      = Outcome.andThen ((Value.struct a).encodeInto config p)
          ((Value.struct b).encodeInto config) := by
  obtain ⟨ha, hb⟩ := List.forall_mem_append.1 h
  rw [encodeInto_struct_of_not_promoted config h, encodeInto_struct_of_not_promoted config ha,
    fieldSteps_append, outcome_append]
  congr 1
  funext q
  exact (encodeInto_struct_of_not_promoted config hb q).symm

theorem encodeInto_map_append (config : Config) (a b : List (Value × Value)) (p : Params) :
    (Value.map (a ++ b)).encodeInto config p
      = Outcome.andThen ((Value.map a).encodeInto config p) ((Value.map b).encodeInto config) := by
  rw [encodeInto_map, encodeInto_map, entrySteps_append, outcome_append]
  congr 1
  funext q
  exact (encodeInto_map config b q).symm

theorem encodeInto_eq_error_iff {config : Config} {value : Value} {p left : Params} {e : Error} :
    value.encodeInto config p = (.error e, left) ↔
      ∃ before step after q, rootSteps config.scopeJoin value = before ++ step :: after ∧
        outcome config.maxDepth before p = (.ok (), q) ∧
        step.Fails config.maxDepth q e left := by
  rw [Value.encodeInto_eq]
  exact outcome_eq_error_iff

/-- An error of an encoder bears the key that the encoder was handed and the text it failed with. -/
theorem exists_encoder_of_customEncoder {config : Config} {value : Value} {p left : Params}
    {key source : String}
    (h : value.encodeInto config p = (.error (.customEncoder key source), left)) :
    ∃ encoder ∈ value.encoders, ∃ q, encoder.run key q = (left, some source) := by
  obtain ⟨before, step, after, q, hsteps, -, hfails⟩ := encodeInto_eq_error_iff.1 h
  cases step with
  | custom encoder key' =>
    obtain ⟨source', hrun, he⟩ := hfails
    cases he
    have hmem : .custom encoder key ∈ rootSteps config.scopeJoin value := by
      rw [hsteps]
      exact List.mem_append_right _ List.mem_cons_self
    exact ⟨encoder, mem_encoders_of_mem_rootSteps hmem, q, hrun⟩
  | enter scope level => cases hfails.2.1
  | refuse kind => cases hfails.1
  | write key' value' => cases hfails
  | leave => cases hfails

/--
**Encoding goes in sequence, and the first error ends it.**

* The promoted structs of a root struct come behind its other fields, each as a root of its own.
* Fields that are not promoted, and the entries of a root map, come one after the other.
* An encoding fails just if some step fails on what the steps before it left, whatever follows,
  and it leaves what that step left.
* The error of an encoder is the text it failed with, at the key it was handed.
-/
theorem encodeInto_sequential (config : Config) (p : Params) :
    (∀ fields : List (Field × Value),
      (Value.struct fields).encodeInto config p
        = Outcome.andThen
            ((Value.struct (fields.filter fun entry => !Field.isPromoted entry)).encodeInto
              config p)
            (Value.encodeAllInto config ((fields.filter Field.isPromoted).map (·.2)))) ∧
    (∀ a b : List (Field × Value), (∀ entry ∈ a ++ b, Field.isPromoted entry = false) →
      (Value.struct (a ++ b)).encodeInto config p
        = Outcome.andThen ((Value.struct a).encodeInto config p)
            ((Value.struct b).encodeInto config)) ∧
    (∀ a b : List (Value × Value),
      (Value.map (a ++ b)).encodeInto config p
        = Outcome.andThen ((Value.map a).encodeInto config p)
            ((Value.map b).encodeInto config)) ∧
    (∀ (value : Value) (e : Error) (left : Params),
      value.encodeInto config p = (.error e, left) ↔
        ∃ before step after q, rootSteps config.scopeJoin value = before ++ step :: after ∧
          outcome config.maxDepth before p = (.ok (), q) ∧
          step.Fails config.maxDepth q e left) ∧
    (∀ (value : Value) (key source : String) (left : Params),
      value.encodeInto config p = (.error (.customEncoder key source), left) →
        ∃ encoder ∈ value.encoders, ∃ q, encoder.run key q = (left, some source)) :=
  ⟨fun fields => encodeInto_struct_promoted config fields p,
    fun _ _ h => encodeInto_struct_append config h p,
    fun a b => encodeInto_map_append config a b p,
    fun _ _ _ => encodeInto_eq_error_iff,
    fun _ _ _ _ => exists_encoder_of_customEncoder⟩

/-- Two fields, the first of which fails behind a removal; the second is not reached. -/
theorem encodeInto_sequential_failing :
    let failing : Field × Value :=
      ({ name := "a" }, .custom (.ofWrites [.erase "", .add "x" "1", .fail "no"]) false)
    let next : Field × Value := ({ name := "b" }, .text "2")
    let seed := Params.ofPairs [("a", "0")]
    (∀ entry ∈ [failing] ++ [next], Field.isPromoted entry = false) ∧
      (Value.struct ([failing] ++ [next])).encodeInto {} seed
        = Outcome.andThen ((Value.struct [failing]).encodeInto {} seed)
            ((Value.struct [next]).encodeInto {}) ∧
      (Value.struct ([failing] ++ [next])).encodeInto {} seed
        = (.error (.customEncoder "a" "no"), Params.ofPairs [("ax", "1")]) := by
  intro failing next seed
  have h : ∀ entry ∈ [failing] ++ [next], Field.isPromoted entry = false := by decide
  exact ⟨h, (encodeInto_sequential {} seed).2.1 [failing] [next] h, by rfl⟩

end Encoding

end UrlQuery
