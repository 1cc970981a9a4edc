import UrlQuery.Encoding.Traversal

/-!
# Steps and outcomes

What a walk through a value does, one thing after the other: a list of `Step`s, run up to the first
that fails. The run of a list is determined by the runs of its parts (`outcome_append`), so a
statement about all runs needs no more than one about single steps.
-/

namespace UrlQuery

/-- One thing that a walk through a value does. -/
inductive Step where
  /-- Appends a value under a key. -/
  | write (key value : String)
  /-- Hands a key to the encoder of a value. -/
  | custom (encoder : CustomEncoder) (key : String)
  /-- Enters a map, a struct or a sequence at a level; its keys are those of a scope. -/
  | enter (scope : String) (level : Nat)
  /-- Leaves what was entered last. -/
  | leave
  /-- Refuses a root that has no keys. -/
  | refuse (kind : Kind)

namespace Encoding

/-! ## Running steps -/

/-- One step, where levels below `limit` are not entered. -/
def runStep (limit : Nat) : Step → Encoding Unit
  | .write key value => write key value
  | .custom encoder key => runCustom encoder key
  | .enter scope level => if limit < level then throw (.depthLimit scope limit) else pure ()
  | .leave => pure ()
  | .refuse kind => throw (.unsupportedKind kind)

/-- Steps one after the other, up to the first that fails. -/
def runSteps (limit : Nat) : List Step → Encoding Unit
  | [] => pure ()
  | step :: rest => do
    runStep limit step
    runSteps limit rest

@[simp] theorem runSteps_nil (limit : Nat) : runSteps limit [] = pure () := rfl

@[simp] theorem runSteps_cons (limit : Nat) (step : Step) (rest : List Step) :
    runSteps limit (step :: rest) = (do runStep limit step; runSteps limit rest) := rfl

@[simp] theorem runSteps_append (limit : Nat) :
    ∀ a b : List Step, runSteps limit (a ++ b) = (do runSteps limit a; runSteps limit b)
  | [], b => by simp
  | step :: a, b => by simp [runSteps_append limit a b]

end Encoding

/-! ## Outcomes -/

/-- What an encoding leaves: its error if it failed, and the parameters. -/
abbrev Outcome := Except Error Unit × Params

/-- Goes on with the parameters that were left, unless there was an error. -/
def Outcome.andThen (outcome : Outcome) (next : Params → Outcome) : Outcome :=
  match outcome with
  | (.ok (), p) => next p
  | (.error e, p) => (.error e, p)

@[simp] theorem Outcome.andThen_ok (p : Params) (next : Params → Outcome) :
    Outcome.andThen (.ok (), p) next = next p := rfl

@[simp] theorem Outcome.andThen_error (e : Error) (p : Params) (next : Params → Outcome) :
    Outcome.andThen (.error e, p) next = (.error e, p) := rfl

@[simp] theorem Outcome.andThen_done (outcome : Outcome) :
    outcome.andThen (fun p => (.ok (), p)) = outcome := by
  obtain ⟨e | _, p⟩ := outcome <;> rfl

/-- What an encoder leaves when it is handed a key; its failure is an error at that key. -/
def CustomEncoder.outcome (encoder : CustomEncoder) (key : String) (p : Params) : Outcome :=
  match encoder.run key p with
  | (q, none) => (.ok (), q)
  | (q, some source) => (.error (.customEncoder key source), q)

namespace Encoding

/-- What steps leave of some parameters. -/
def outcome (limit : Nat) (steps : List Step) (p : Params) : Outcome :=
  ((runSteps limit steps).run).run p

@[simp] theorem outcome_nil (limit : Nat) (p : Params) : outcome limit [] p = (.ok (), p) := rfl

theorem outcome_append (limit : Nat) (a b : List Step) (p : Params) :
    outcome limit (a ++ b) p = (outcome limit a p).andThen (outcome limit b) := by
  unfold outcome
  rw [runSteps_append]
  simp only [ExceptT.run_bind, StateT.run_bind]
  cases ((runSteps limit a).run).run p with
  | mk result q => cases result <;> rfl

theorem outcome_cons (limit : Nat) (step : Step) (rest : List Step) (p : Params) :
    outcome limit (step :: rest) p = (outcome limit [step] p).andThen (outcome limit rest) :=
  outcome_append limit [step] rest p

/-! ### Single steps -/

theorem outcome_singleton (limit : Nat) (step : Step) (p : Params) :
    outcome limit [step] p = ((runStep limit step).run).run p := by
  unfold outcome
  rw [runSteps_cons, runSteps_nil]
  simp only [bind_pure_unit]

@[simp] theorem outcome_write (limit : Nat) (key value : String) (p : Params) :
    outcome limit [.write key value] p = (.ok (), p.add key value) := rfl

@[simp] theorem outcome_leave (limit : Nat) (p : Params) :
    outcome limit [.leave] p = (.ok (), p) := rfl

@[simp] theorem outcome_refuse (limit : Nat) (kind : Kind) (p : Params) :
    outcome limit [.refuse kind] p = (.error (.unsupportedKind kind), p) := rfl

theorem outcome_enter (limit : Nat) (scope : String) (level : Nat) (p : Params) :
    outcome limit [.enter scope level] p
      = if limit < level then (.error (.depthLimit scope limit), p) else (.ok (), p) := by
  rw [outcome_singleton, runStep]
  split <;> rfl

theorem run_get_bind (next : Params → Encoding Unit) (p : Params) :
    ((do let q ← get; next q : Encoding Unit).run).run p = ((next p).run).run p := rfl

theorem outcome_custom (limit : Nat) (encoder : CustomEncoder) (key : String) (p : Params) :
    outcome limit [.custom encoder key] p = encoder.outcome key p := by
  rw [outcome_singleton, CustomEncoder.outcome]
  unfold runStep runCustom
  rw [run_get_bind]
  obtain ⟨q, _ | source⟩ := encoder.run key p
  · rfl
  · rfl

end Encoding

end UrlQuery
