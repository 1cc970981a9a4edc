import UrlQuery.Proofs.Encoding.Encoders

/-!
# Encoding appends

What an encoding does to parameters does not depend on what they hold, and takes nothing away: it
is what it does to the empty ones, merged behind (`encodeInto_appends`). This holds of an encoding
that fails as well as of one that succeeds, if the encoders in the value append too.

The walk itself writes by `Params.add` alone, so one step appends (`outcome_step_appends`), and
merging is associative, so a list of steps does (`outcome_appends`).
-/

namespace UrlQuery

/-! ## Encoders that append -/

/--
All that the encoder does with a key is to add some pairs, one after the other, and then to
succeed or to fail. It does not look at the parameters.
-/
def CustomEncoder.AppendOnly (encoder : CustomEncoder) : Prop :=
  ∀ key, ∃ (pairs : List (String × String)) (failure : Option String),
    ∀ p, encoder.run key p = (p.addPairs pairs, failure)

/-- The write takes nothing away. -/
def Write.appends : Write → Bool
  | add _ _ | fail _ => true
  | set _ _ | erase _ => false

/-- A list of writes that take nothing away is an encoder that appends. -/
theorem CustomEncoder.appendOnly_ofWrites :
    ∀ {writes : List Write}, (∀ w ∈ writes, w.appends = true) → (ofWrites writes).AppendOnly
  | [], _, _ => ⟨[], none, fun _ => rfl⟩
  | .add suffix value :: rest, h, key => by
    obtain ⟨pairs, failure, hrun⟩ :=
      appendOnly_ofWrites (fun w hw => h w (List.mem_cons_of_mem _ hw)) key
    exact ⟨(key ++ suffix, value) :: pairs, failure, fun p => hrun (p.add (key ++ suffix) value)⟩
  | .fail message :: _, _, _ => ⟨[], some message, fun _ => rfl⟩
  | .set suffix value :: _, h, _ => absurd (h (.set suffix value) List.mem_cons_self) nofun
  | .erase suffix :: _, h, _ => absurd (h (.erase suffix) List.mem_cons_self) nofun

/-- If the step hands a key to an encoder, the encoder appends. -/
def Step.AppendOnly : Step → Prop
  | .custom encoder _ => encoder.AppendOnly
  | _ => True

namespace Encoding

/-! ## Steps -/

/-- **One step appends**: it leaves the parameters with what it leaves of the empty ones. -/
theorem outcome_step_appends (limit : Nat) :
    ∀ {step : Step}, step.AppendOnly → ∀ p : Params,
      outcome limit [step] p
        = ((outcome limit [step] Params.empty).1, p.merge (outcome limit [step] Params.empty).2)
  | .write key value, _, p => by rw [outcome_write, outcome_write, p.add_eq_merge]
  | .custom encoder key, h, p => by
    obtain ⟨pairs, failure, hrun⟩ := h key
    rw [outcome_custom, outcome_custom, CustomEncoder.outcome, CustomEncoder.outcome, hrun, hrun,
      p.addPairs_eq_merge]
    cases failure <;> rfl
  | .enter scope level, _, p => by
    rw [outcome_enter, outcome_enter]
    split <;> rfl
  | .leave, _, _ | .refuse _, _, _ => rfl

/-- **Steps append.** After the first, the rest runs on parameters that hold what it added. -/
theorem outcome_appends (limit : Nat) :
    ∀ {steps : List Step}, (∀ step ∈ steps, step.AppendOnly) → ∀ p : Params,
      outcome limit steps p
        = ((outcome limit steps Params.empty).1, p.merge (outcome limit steps Params.empty).2)
  | [], _, _ => rfl
  | step :: rest, h, p => by
    obtain ⟨hstep, hrest⟩ := List.forall_mem_cons.1 h
    have ih := outcome_appends limit hrest
    rw [outcome_cons, outcome_cons limit step rest Params.empty,
      outcome_step_appends limit hstep p]
    obtain ⟨e | _, q⟩ := outcome limit [step] Params.empty
    · rfl
    · rw [Outcome.andThen_ok, Outcome.andThen_ok, ih (p.merge q), ih q, Params.merge_assoc]

/-- The steps of a value whose encoders append are steps that append. -/
theorem appendOnly_rootSteps (join : ScopeJoin) (value : Value)
    (h : ∀ encoder ∈ value.encoders, encoder.AppendOnly) :
    ∀ step ∈ rootSteps join value, step.AppendOnly
  | .custom encoder _, hmem => h encoder (mem_encoders_of_mem_rootSteps hmem)
  | .write _ _, _ | .enter _ _, _ | .leave, _ | .refuse _, _ => trivial

end Encoding

/-- **Encoding into parameters is encoding into empty ones and merging**, error or no error. -/
theorem Value.encodeInto_appends (config : Config) (value : Value) (p : Params)
    (h : ∀ encoder ∈ value.encoders, encoder.AppendOnly) :
    value.encodeInto config p
      = ((value.encodeInto config Params.empty).1,
          p.merge (value.encodeInto config Params.empty).2) := by
  rw [Value.encodeInto_eq, Value.encodeInto_eq]
  exact Encoding.outcome_appends _ (Encoding.appendOnly_rootSteps _ value h) p

/-- An encoder that fails behind an entry under a key that the parameters hold already. -/
theorem Value.encodeInto_appends_failing :
    let value := Value.map [(.text "a", .text "1"),
      (.text "b", .custom (.ofWrites [.add "" "x", .fail "no", .add "" "y"]) false),
      (.text "c", .text "2")]
    let seed := Params.ofPairs [("a", "0"), ("b", "0")]
    (∀ encoder ∈ value.encoders, encoder.AppendOnly) ∧
      value.encodeInto {} seed
        = ((value.encodeInto {} Params.empty).1, seed.merge (value.encodeInto {} Params.empty).2) ∧
      value.encodeInto {} seed
        = (.error (.customEncoder "b" "no"),
            Params.ofPairs [("a", "0"), ("a", "1"), ("b", "0"), ("b", "x")]) := by
  intro value seed
  have h : ∀ encoder ∈ value.encoders, encoder.AppendOnly := by
    intro encoder hmem
    have heq : encoder = .ofWrites [.add "" "x", .fail "no", .add "" "y"] := by
      simpa [value, Value.encoders, Value.entryEncoders] using hmem
    rw [heq]
    exact CustomEncoder.appendOnly_ofWrites (by decide)
  exact ⟨h, Value.encodeInto_appends {} value seed h, by rfl⟩

end UrlQuery
