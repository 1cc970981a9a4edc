import UrlQuery.Proofs.Encoding.Encoders

/-!
# The limit of the depth

The limit of the depth ends a walk at the first container whose level exceeds it, and does nothing
else (`encodeInto_limit`). Levels are those of the trace, `rootSteps`, which knows of no limit.

Where no encoder stands in a value, a walk fails at containers alone, so it writes all pairs of the
trace up to that container, or all of them.
-/

namespace UrlQuery

/-! ## What steps visit and write -/

/-- The scope and the level of the container that the step enters. -/
def Step.container? : Step → Option (String × Nat)
  | enter scope level => some (scope, level)
  | _ => none

/-- The pair that the step writes. -/
def Step.pair? : Step → Option (String × String)
  | write key value => some (key, value)
  | _ => none

/-- The step enters no container whose level exceeds `limit`. -/
def Step.fits (limit : Nat) : Step → Bool
  | enter _ level => level ≤ limit
  | _ => true

namespace Encoding

/-- The containers that are visited, in the order of the walk, each with its scope and level. -/
def visited (steps : List Step) : List (String × Nat) :=
  steps.filterMap Step.container?

/-- The pairs that are written, in the order of the walk. -/
def written (steps : List Step) : List (String × String) :=
  steps.filterMap Step.pair?

/-- The steps before the first container whose level exceeds `limit`. -/
def stepsWithin (limit : Nat) (steps : List Step) : List Step :=
  steps.takeWhile (Step.fits limit)

/-- The first container whose level exceeds `limit`. -/
def firstBelow? (limit : Nat) (steps : List Step) : Option (String × Nat) :=
  (visited steps).find? fun c => limit < c.2

/-! ### The first step -/

theorem written_cons (step : Step) (rest : List Step) :
    written (step :: rest) = step.pair?.toList ++ written rest := by
  cases step <;> rfl

/-- A step that fits is not the first container below the limit. -/
theorem firstBelow?_cons_of_fits {limit : Nat} {step : Step} (h : step.fits limit = true)
    (rest : List Step) : firstBelow? limit (step :: rest) = firstBelow? limit rest := by
  cases step with
  | enter scope level =>
    have hle : level ≤ limit := of_decide_eq_true h
    simp [firstBelow?, visited, Step.container?, hle]
  | write _ _ | custom _ _ | leave | refuse _ => rfl

theorem stepsWithin_cons_of_fits {limit : Nat} {step : Step} (h : step.fits limit = true)
    (rest : List Step) : stepsWithin limit (step :: rest) = step :: stepsWithin limit rest :=
  List.takeWhile_cons_of_pos h

/-- A step that does not fit enters the first container below the limit. -/
theorem exists_enter_of_not_fits {limit : Nat} {step : Step} (h : ¬ step.fits limit = true)
    (rest : List Step) :
    ∃ scope level, step = .enter scope level ∧ limit < level ∧
      firstBelow? limit (step :: rest) = some (scope, level) ∧
      stepsWithin limit (step :: rest) = [] := by
  cases step with
  | enter scope level =>
    have hlt : limit < level := by simpa [Step.fits] using h
    refine ⟨scope, level, rfl, hlt, ?_, List.takeWhile_cons_of_neg h⟩
    simp [firstBelow?, visited, Step.container?, hlt]
  | write _ _ | custom _ _ | leave | refuse _ => exact absurd rfl h

/-! ### All steps -/

/-- The pairs before that container are the first of all pairs. -/
theorem written_stepsWithin_prefix (limit : Nat) (steps : List Step) :
    written (stepsWithin limit steps) <+: written steps :=
  (List.takeWhile_prefix _).filterMap _

theorem firstBelow?_eq_none_iff {limit : Nat} {steps : List Step} :
    firstBelow? limit steps = none ↔ ∀ c ∈ visited steps, c.2 ≤ limit := by
  simp [firstBelow?]

theorem fits_enclosed {scope : String} {limit level : Nat} {steps : List Step}
    (hlevel : level ≤ limit) (h : ∀ step ∈ steps, step.fits limit = true) :
    ∀ step ∈ .enter scope level :: steps ++ [.leave], step.fits limit = true := by
  rw [List.cons_append, List.forall_mem_cons, List.forall_mem_append, List.forall_mem_singleton]
  exact ⟨decide_eq_true hlevel, h, rfl⟩

/-- The level of a container that is visited is within the limit, if all steps fit. -/
theorem level_le_of_fits {limit : Nat} {steps : List Step}
    (h : ∀ step ∈ steps, step.fits limit = true) : ∀ c ∈ visited steps, c.2 ≤ limit := by
  intro c hc
  obtain ⟨step, hstep, hcontainer⟩ := List.mem_filterMap.1 hc
  have hfits := h step hstep
  cases step with
  | enter scope level =>
    cases hcontainer
    exact of_decide_eq_true hfits
  | write _ _ | custom _ _ | leave | refuse _ => cases hcontainer

/-! ## Walks without encoders -/

/-- A step that fits, and is no matter of an encoder, writes its pair if it has one. -/
theorem outcome_step_of_fits {limit : Nat} :
    ∀ {step : Step}, step.Within [] → step.fits limit = true → ∀ p : Params,
      outcome limit [step] p = (.ok (), p.addPairs step.pair?.toList)
  | .write _ _, _, _, _ | .leave, _, _, _ => rfl
  | .enter scope level, _, h, p => by
    rw [outcome_enter, if_neg (Nat.not_lt.2 (of_decide_eq_true h))]
    rfl
  | .custom _ _, h, _, _ => absurd h List.not_mem_nil

/--
**The first container below the limit ends a walk without encoders**, and nothing else does. By
induction on the steps; the parameters vary, as every step that fits leaves others.
-/
theorem outcome_limit (limit : Nat) :
    ∀ {steps : List Step}, (∀ step ∈ steps, step.Within []) → ∀ p : Params,
      outcome limit steps p
        = match firstBelow? limit steps with
          | some (scope, _) =>
            (.error (.depthLimit scope limit), p.addPairs (written (stepsWithin limit steps)))
          | none => (.ok (), p.addPairs (written steps))
  | [], _, _ => rfl
  | step :: rest, h, p => by
    obtain ⟨hstep, hrest⟩ := List.forall_mem_cons.1 h
    by_cases hfits : step.fits limit = true
    · -- The step writes its pair, if any, and neither side looks at it again.
      rw [outcome_cons, outcome_step_of_fits hstep hfits, Outcome.andThen_ok,
        outcome_limit limit hrest, firstBelow?_cons_of_fits hfits, stepsWithin_cons_of_fits hfits,
        written_cons, written_cons, Params.addPairs_append, Params.addPairs_append]
    · -- The walk ends here, before anything is written.
      obtain ⟨scope, level, rfl, hlt, hfirst, hwithin⟩ := exists_enter_of_not_fits hfits rest
      rw [outcome_cons, outcome_enter, if_pos hlt, hfirst, hwithin]
      rfl

theorem stepsWithin_eq_self {limit : Nat} {steps : List Step}
    (h : firstBelow? limit steps = none) : stepsWithin limit steps = steps := by
  induction steps with
  | nil => rfl
  | cons step rest ih =>
    by_cases hfits : step.fits limit = true
    · rw [firstBelow?_cons_of_fits hfits] at h
      rw [stepsWithin_cons_of_fits hfits, ih h]
    · obtain ⟨scope, level, -, -, hfirst, -⟩ := exists_enter_of_not_fits hfits rest
      rw [hfirst] at h
      cases h

/-- A walk without encoders writes its pairs up to where the limit ends it, if it does. -/
theorem outcome_eq_stepsWithin (limit : Nat) {steps : List Step}
    (h : ∀ step ∈ steps, step.Within []) (p : Params) :
    outcome limit steps p
      = ((firstBelow? limit steps).elim (.ok ()) fun c => .error (.depthLimit c.1 limit),
          p.addPairs (written (stepsWithin limit steps))) := by
  rw [outcome_limit limit h p]
  cases hfirst : firstBelow? limit steps with
  | none => rw [stepsWithin_eq_self hfirst, Option.elim_none]
  | some c => rfl

/-! ## The result of an encoding -/

theorem encodeInto_of_plain (config : Config) {value : Value} (hplain : value.encoders = [])
    (hroot : value.kind.isRoot = true) (p : Params) :
    value.encodeInto config p
      = match firstBelow? config.maxDepth (rootSteps config.scopeJoin value) with
        | some (scope, _) =>
          (.error (.depthLimit scope config.maxDepth),
            p.addPairs (written (stepsWithin config.maxDepth (rootSteps config.scopeJoin value))))
        | none => (.ok (), p.addPairs (written (rootSteps config.scopeJoin value))) := by
  have h := within_rootSteps config.scopeJoin value hroot
  rw [hplain] at h
  rw [Value.encodeInto_eq]
  exact outcome_limit config.maxDepth h p

/--
A walk that no encoder takes part in succeeds just if it enters no level below the limit, and then
with the pairs it writes.
-/
theorem encode_eq_ok_iff_of_within {config : Config} {value : Value} {p : Params}
    (h : ∀ step ∈ rootSteps config.scopeJoin value, step.Within []) :
    value.encode config = .ok p ↔
      (∀ c ∈ visited (rootSteps config.scopeJoin value), c.2 ≤ config.maxDepth) ∧
        p = Params.ofPairs (written (rootSteps config.scopeJoin value)) := by
  rw [encode_eq_ok_iff, Value.encodeInto_eq, outcome_limit _ h, ← firstBelow?_eq_none_iff]
  cases firstBelow? config.maxDepth (rootSteps config.scopeJoin value) with
  | none => simp [Params.ofPairs, eq_comm]
  | some c => simp

theorem encode_ne_ok_of_not_isRoot {config : Config} {value : Value} {p : Params}
    (h : value.kind.isRoot = false) : value.encode config ≠ .ok p := by
  rw [ne_eq, encode_eq_ok_iff, Value.encodeInto_eq, rootSteps_of_not_isRoot _ value h,
    outcome_refuse]
  nofun

/-- An error of the limit is an error of the first container below it. -/
theorem exists_depthLimit_iff (config : Config) {value : Value} (hplain : value.encoders = [])
    (hroot : value.kind.isRoot = true) (p : Params) :
    (∃ key limit, (value.encodeInto config p).1 = .error (.depthLimit key limit)) ↔
      ∃ c ∈ visited (rootSteps config.scopeJoin value), config.maxDepth < c.2 := by
  rw [encodeInto_of_plain config hplain hroot p]
  cases hfirst : firstBelow? config.maxDepth (rootSteps config.scopeJoin value) with
  | none =>
    have hle := firstBelow?_eq_none_iff.1 hfirst
    constructor
    · rintro ⟨_, _, h⟩
      cases h
    · rintro ⟨c, hmem, hlt⟩
      exact absurd (hle c hmem) (Nat.not_le.2 hlt)
  | some c =>
    constructor
    · intro _
      have hlt : decide (config.maxDepth < c.2) = true := by
        simpa using List.find?_some hfirst
      exact ⟨c, List.mem_of_find?_eq_some hfirst, of_decide_eq_true hlt⟩
    · intro _
      exact ⟨c.1, config.maxDepth, rfl⟩

/-- What is left under a limit begins what is left where no container is below the limit. -/
theorem exists_addPairs_of_le (config : Config) {value : Value} (hplain : value.encoders = [])
    (hroot : value.kind.isRoot = true) (p : Params) {limit : Nat}
    (hlimit : ∀ c ∈ visited (rootSteps config.scopeJoin value), c.2 ≤ limit) :
    ∃ rest, value.encodeInto { config with maxDepth := limit } p
      = (.ok (), (value.encodeInto config p).2.addPairs rest) := by
  have hunlimited := encodeInto_of_plain { config with maxDepth := limit } hplain hroot p
  rw [firstBelow?_eq_none_iff.2 hlimit] at hunlimited
  rw [hunlimited, encodeInto_of_plain config hplain hroot p]
  cases firstBelow? config.maxDepth (rootSteps config.scopeJoin value) with
  | none => exact ⟨[], rfl⟩
  | some c =>
    obtain ⟨rest, hrest⟩ :=
      written_stepsWithin_prefix config.maxDepth (rootSteps config.scopeJoin value)
    refine ⟨rest, ?_⟩
    rw [← hrest, Params.addPairs_append]

end Encoding

open Encoding

/--
**The limit of the depth is exact and does nothing else.** Let no encoder stand in a root.

* Encoding exceeds the limit just if it visits a container whose level does.
* The error then bears the limit and the scope of the first such container, and the pairs before
  that container have been written; otherwise all pairs are.
* So under any limit that no visited container exceeds, encoding succeeds with one and the same
  result, which begins with what is left under a lower limit.
-/
theorem Value.encodeInto_limit (config : Config) (value : Value) (p : Params)
    (hplain : value.encoders = []) (hroot : value.kind.isRoot = true) :
    ((∃ key limit, (value.encodeInto config p).1 = .error (.depthLimit key limit)) ↔
      ∃ c ∈ visited (rootSteps config.scopeJoin value), config.maxDepth < c.2) ∧
    (value.encodeInto config p
      = match firstBelow? config.maxDepth (rootSteps config.scopeJoin value) with
        | some (scope, _) =>
          (.error (.depthLimit scope config.maxDepth),
            p.addPairs (written (stepsWithin config.maxDepth (rootSteps config.scopeJoin value))))
        | none => (.ok (), p.addPairs (written (rootSteps config.scopeJoin value)))) ∧
    (∀ limit, (∀ c ∈ visited (rootSteps config.scopeJoin value), c.2 ≤ limit) →
      ∃ rest, value.encodeInto { config with maxDepth := limit } p
        = (.ok (), (value.encodeInto config p).2.addPairs rest)) :=
  ⟨exists_depthLimit_iff config hplain hroot p, encodeInto_of_plain config hplain hroot p,
    fun _ hlimit => exists_addPairs_of_le config hplain hroot p hlimit⟩

/-- A map two levels down, behind an entry that is written and before one that is not. -/
theorem Value.encodeInto_limit_nested :
    let value := Value.map [(.text "a", .text "1"),
      (.text "b", .map [(.text "c", .map [(.text "d", .text "2")])]), (.text "e", .text "3")]
    let config : Config := { maxDepth := 1 }
    value.encoders = [] ∧ value.kind.isRoot = true ∧
      (∃ key limit, (value.encodeInto config Params.empty).1 = .error (.depthLimit key limit)) ∧
      visited (rootSteps config.scopeJoin value) = [("", 0), ("b", 1), ("b[c]", 2)] ∧
      value.encodeInto config Params.empty
        = (.error (.depthLimit "b[c]" 1), Params.ofPairs [("a", "1")]) := by
  intro value config
  have hvisited : visited (rootSteps config.scopeJoin value) = [("", 0), ("b", 1), ("b[c]", 2)] :=
    by rfl
  have hlimit := Value.encodeInto_limit config value Params.empty rfl rfl
  refine ⟨rfl, rfl, hlimit.1.2 ⟨("b[c]", 2), ?_, by decide⟩, hvisited, by rfl⟩
  rw [hvisited]
  simp

end UrlQuery
