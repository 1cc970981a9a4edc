import UrlQuery.Proofs.Encoding.Depth

/-!
# Levels

A walk does not look at the level that it begins at. Begun `n` levels further down it does the same
steps, and only enters each container `n` levels further down (`inPlaceSteps_add`,
`valueSteps_add`). Under a limit that lies as much deeper, such steps have the outcome they had,
but for the limit that an error bears (`outcome_lower`).
-/

namespace UrlQuery

/-! ## Further down -/

/-- The step, with the level of what it enters `n` further down. -/
def Step.lower (n : Nat) : Step → Step
  | .enter scope level => .enter scope (level + n)
  | .write key value => .write key value
  | .custom encoder key => .custom encoder key
  | .leave => .leave
  | .refuse kind => .refuse kind

/-- The error, with a limit that lies `n` levels deeper. -/
def Error.lowerLimit (n : Nat) : Error → Error
  | .depthLimit key maxDepth => .depthLimit key (maxDepth + n)
  | .unsupportedKind kind => .unsupportedKind kind
  | .customEncoder key source => .customEncoder key source
  | .invalidUrl cause => .invalidUrl cause

/-- The outcome, with a limit that lies `n` levels deeper in its error. -/
def Outcome.lowerLimit (n : Nat) (outcome : Outcome) : Outcome :=
  (outcome.1.mapError (Error.lowerLimit n), outcome.2)

/-- The configuration with a limit that lies `n` levels deeper. -/
def Config.lower (config : Config) (n : Nat) : Config :=
  { config with maxDepth := config.maxDepth + n }

theorem Outcome.lowerLimit_andThen (n : Nat) (outcome : Outcome) (next : Params → Outcome) :
    (outcome.andThen next).lowerLimit n
      = (outcome.lowerLimit n).andThen fun p => (next p).lowerLimit n := by
  obtain ⟨e | _, p⟩ := outcome <;> rfl

namespace Encoding

theorem lower_enclosed (n : Nat) (scope : String) (level : Nat) (steps : List Step) :
    (Step.enter scope level :: steps ++ [Step.leave]).map (Step.lower n)
      = .enter scope (level + n) :: steps.map (Step.lower n) ++ [.leave] := by
  rw [List.cons_append, List.map_cons, List.map_append]
  rfl

/-! ## The walk further down -/

mutual

theorem fieldSteps_add (join : ScopeJoin) (scope : String) (level n : Nat) :
    ∀ fields : List (Field × Value),
      fieldSteps join scope (level + n) fields
        = (fieldSteps join scope level fields).map (Step.lower n)
  | [] => by rw [fieldSteps, fieldSteps, List.map_nil]
  | (field, value) :: rest => by
    rw [fieldSteps, fieldSteps, List.map_append, fieldSteps_add join scope level n rest]
    congr 1
    split
    · rfl
    · exact valueSteps_add join _ _ _ _ level n value

theorem promotedSteps_add (join : ScopeJoin) (scope : String) (level n : Nat) :
    ∀ fields : List (Field × Value),
      promotedSteps join scope (level + n) fields
        = (promotedSteps join scope level fields).map (Step.lower n)
  | [] => by rw [promotedSteps, promotedSteps, List.map_nil]
  | (field, value) :: rest => by
    rw [promotedSteps, promotedSteps, List.map_append, promotedSteps_add join scope level n rest]
    congr 1
    split
    · exact inPlaceSteps_add join scope level n value
    · rfl

theorem entrySteps_add (join : ScopeJoin) (style : Style) (scope : String) (level n : Nat) :
    ∀ entries : List (Value × Value),
      entrySteps join style scope (level + n) entries
        = (entrySteps join style scope level entries).map (Step.lower n)
  | [] => by rw [entrySteps, entrySteps, List.map_nil]
  | (name, value) :: rest => by
    rw [entrySteps, entrySteps, List.map_append, entrySteps_add join style scope level n rest]
    congr 1
    split
    · rfl
    · exact valueSteps_add join style .slot _ _ level n value

theorem elementSteps_add (join : ScopeJoin) (style : Style) (key : String) (level n index : Nat) :
    ∀ items : List Value,
      elementSteps join style key (level + n) index items
        = (elementSteps join style key level index items).map (Step.lower n)
  | [] => by rw [elementSteps, elementSteps, List.map_nil]
  | value :: rest => by
    rw [elementSteps, elementSteps, List.map_append,
      elementSteps_add join style key level n (index + 1) rest]
    congr 1
    exact valueSteps_add join style .element _ _ level n value

theorem pairSteps_add (join : ScopeJoin) (scope : String) (level n : Nat) :
    ∀ items : List Value,
      pairSteps join scope (level + n) items
        = (pairSteps join scope level items).map (Step.lower n)
  | [] => by rw [pairSteps, pairSteps, List.map_nil]
  | [first] => by
    simp only [pairSteps, List.append_nil]
    split
    · exact inPlaceSteps_add join scope level n first
    · rfl
  | first :: second :: rest => by
    rw [pairSteps, pairSteps]
    split
    · rw [List.map_append, inPlaceSteps_add join scope level n first,
        pairSteps_add join scope level n (second :: rest)]
    · rw [List.map_cons, pairSteps_add join scope level n rest]
      rfl

theorem inPlaceSteps_add (join : ScopeJoin) (scope : String) (level n : Nat) :
    ∀ value : Value,
      inPlaceSteps join scope (level + n) value
        = (inPlaceSteps join scope level value).map (Step.lower n)
  | .map entries => by
    rw [inPlaceSteps, inPlaceSteps, lower_enclosed, entrySteps_add join {} scope level n entries]
  | .struct fields => by
    rw [inPlaceSteps, inPlaceSteps, lower_enclosed, List.map_append,
      fieldSteps_add join scope level n fields, promotedSteps_add join scope level n fields]
  | .pointer _ value => by
    rw [inPlaceSteps, inPlaceSteps, inPlaceSteps_add join scope level n value]
  | .absent _ | .bool _ | .int _ | .uint _ | .single _ | .double _ | .char _ | .text _ | .bytes _
  | .time _ | .seq _ | .custom _ _ => by simp [inPlaceSteps]

theorem valueSteps_add (join : ScopeJoin) (style : Style) (place : Place) (scope key : String)
    (level n : Nat) :
    ∀ value : Value,
      valueSteps join style place scope key (level + n) value
        = (valueSteps join style place scope key level value).map (Step.lower n)
  | .seq items => by
    cases place with
    | slot =>
      cases hlayout : style.layout with
      | joined separator =>
        simp only [valueSteps, hlayout]
        split <;> rfl
      | brackets | numbered | indexed | repeated =>
        simp only [valueSteps, hlayout]
        exact elementSteps_add join style key level n 0 items
    | element =>
      rw [valueSteps, valueSteps, lower_enclosed, Nat.add_right_comm,
        pairSteps_add join key (level + 1) n items]
  | .map entries => by
    rw [valueSteps, valueSteps, lower_enclosed, Nat.add_right_comm,
      entrySteps_add join style scope (level + 1) n entries]
  | .struct fields => by
    rw [valueSteps, valueSteps, lower_enclosed, List.map_append, Nat.add_right_comm,
      fieldSteps_add join scope (level + 1) n fields,
      promotedSteps_add join scope (level + 1) n fields]
  | .pointer _ value => by
    rw [valueSteps, valueSteps, valueSteps_add join style place scope key level n value]
  | .custom _ _ | .absent (some _) | .absent none | .bool _ | .int _ | .uint _ | .single _
  | .double _ | .char _ | .text _ | .bytes _ | .time _ => by
    simp only [valueSteps, List.map_cons, List.map_nil, Step.lower]

end

/-- Steps further down write what they wrote. -/
theorem written_lower (n : Nat) (steps : List Step) :
    written (steps.map (Step.lower n)) = written steps := by
  rw [written, written, List.filterMap_map]
  congr 1
  funext step
  cases step <;> rfl

theorem visited_lower (n : Nat) (steps : List Step) :
    visited (steps.map (Step.lower n)) = (visited steps).map fun c => (c.1, c.2 + n) := by
  rw [visited, visited, List.filterMap_map, List.map_filterMap]
  congr 1
  funext step
  cases step <;> rfl

/-! ## The outcome further down -/

/-- A step that lies `n` levels further down does the same under a limit that does. -/
theorem outcome_step_lower (limit n : Nat) (step : Step) (p : Params) :
    outcome (limit + n) [step.lower n] p = (outcome limit [step] p).lowerLimit n := by
  cases step with
  | write key value => rfl
  | custom encoder key =>
    rw [Step.lower, outcome_custom, outcome_custom, CustomEncoder.outcome]
    obtain ⟨q, _ | source⟩ := encoder.run key p <;> rfl
  | enter scope level =>
    rw [Step.lower, outcome_enter, outcome_enter]
    by_cases h : limit < level
    · rw [if_pos h, if_pos (Nat.add_lt_add_right h n)]
      rfl
    · rw [if_neg h, if_neg fun hlt => h (Nat.lt_of_add_lt_add_right hlt)]
      rfl
  | leave => rfl
  | refuse kind => rfl

/-- **Steps further down, under a limit as much deeper, have the outcome they had.** -/
theorem outcome_lower (limit n : Nat) (steps : List Step) (p : Params) :
    outcome (limit + n) (steps.map (Step.lower n)) p = (outcome limit steps p).lowerLimit n := by
  induction steps generalizing p with
  | nil => rfl
  | cons step rest ih =>
    rw [List.map_cons, outcome_cons, outcome_step_lower, outcome_cons limit step rest,
      Outcome.lowerLimit_andThen]
    congr 1
    funext q
    exact ih q

end Encoding

end UrlQuery
