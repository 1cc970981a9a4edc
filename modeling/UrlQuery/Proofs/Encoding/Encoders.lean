import UrlQuery.Proofs.Encoding.Trace

/-!
# The encoders in a value

Which encoders stand anywhere in a value. A walk hands keys to no other encoder, and it refuses
nothing but a root of the wrong kind (`within_rootSteps`, `rootSteps_of_not_isRoot`). So a
statement about all steps of a walk needs a proof for writes, for entering and leaving, and for the
encoders of the value. A statement about parameters that adding and these encoders keep is kept by
an encoding (`keeps_encodeInto`).
-/

namespace UrlQuery

/-! ## Collecting encoders -/

mutual

/-- The encoders anywhere in a value, in its keys and its absent parts too. -/
def Value.encoders : Value → List CustomEncoder
  | .absent (some encoder) => [encoder]
  | .custom encoder _ => [encoder]
  | .seq items => itemEncoders items
  | .map entries => entryEncoders entries
  | .struct fields => fieldEncoders fields
  | .pointer _ value => value.encoders
  | _ => []

/-- The encoders in the elements of a sequence. -/
def Value.itemEncoders : List Value → List CustomEncoder
  | [] => []
  | value :: rest => value.encoders ++ itemEncoders rest

/-- The encoders in the keys and values of a map. -/
def Value.entryEncoders : List (Value × Value) → List CustomEncoder
  | [] => []
  | (name, value) :: rest => name.encoders ++ value.encoders ++ entryEncoders rest

/-- The encoders in the fields of a struct. -/
def Value.fieldEncoders : List (Field × Value) → List CustomEncoder
  | [] => []
  | (_, value) :: rest => value.encoders ++ fieldEncoders rest

end

theorem Value.fieldEncoders_append (a b : List (Field × Value)) :
    fieldEncoders (a ++ b) = fieldEncoders a ++ fieldEncoders b := by
  induction a with
  | nil => rfl
  | cons entry rest ih => rw [List.cons_append, fieldEncoders, fieldEncoders, ih, List.append_assoc]

/--
The step writes, enters or leaves, or it hands a key to one of these encoders. All steps of a walk
but the refusal of its root are of this form.
-/
def Step.Within (encoders : List CustomEncoder) : Step → Prop
  | .custom encoder _ => encoder ∈ encoders
  | .refuse _ => False
  | _ => True

namespace Encoding

open Value (itemEncoders entryEncoders fieldEncoders)

/-! ## The steps of a walk -/

variable {encoders : List CustomEncoder}

/-- What holds of the steps inside of a container holds with those of its ends. -/
theorem within_enclosed {scope : String} {level : Nat} {steps : List Step}
    (h : ∀ step ∈ steps, step.Within encoders) :
    ∀ step ∈ .enter scope level :: steps ++ [.leave], step.Within encoders := by
  rw [List.cons_append, List.forall_mem_cons, List.forall_mem_append, List.forall_mem_singleton]
  exact ⟨trivial, h, trivial⟩

mutual

theorem within_fieldSteps (join : ScopeJoin) (scope : String) (level : Nat) :
    ∀ fields : List (Field × Value), fieldEncoders fields ⊆ encoders →
      ∀ step ∈ fieldSteps join scope level fields, step.Within encoders
  | [], _ => by simp [fieldSteps]
  | (field, value) :: rest, h => by
    rw [fieldEncoders, List.append_subset] at h
    rw [fieldSteps, List.forall_mem_append]
    refine ⟨?_, within_fieldSteps join scope level rest h.2⟩
    split
    · simp
    · exact within_valueSteps join _ _ _ _ level value h.1

theorem within_promotedSteps (join : ScopeJoin) (scope : String) (level : Nat) :
    ∀ fields : List (Field × Value), fieldEncoders fields ⊆ encoders →
      ∀ step ∈ promotedSteps join scope level fields, step.Within encoders
  | [], _ => by simp [promotedSteps]
  | (field, value) :: rest, h => by
    rw [fieldEncoders, List.append_subset] at h
    rw [promotedSteps, List.forall_mem_append]
    refine ⟨?_, within_promotedSteps join scope level rest h.2⟩
    split
    · exact within_inPlaceSteps join scope level value h.1
    · simp

theorem within_entrySteps (join : ScopeJoin) (style : Style) (scope : String) (level : Nat) :
    ∀ entries : List (Value × Value), entryEncoders entries ⊆ encoders →
      ∀ step ∈ entrySteps join style scope level entries, step.Within encoders
  | [], _ => by simp [entrySteps]
  | (name, value) :: rest, h => by
    rw [entryEncoders, List.append_subset, List.append_subset] at h
    rw [entrySteps, List.forall_mem_append]
    refine ⟨?_, within_entrySteps join style scope level rest h.2⟩
    split
    · simp
    · exact within_valueSteps join style .slot _ _ level value h.1.2

theorem within_elementSteps (join : ScopeJoin) (style : Style) (key : String)
    (level index : Nat) :
    ∀ items : List Value, itemEncoders items ⊆ encoders →
      ∀ step ∈ elementSteps join style key level index items, step.Within encoders
  | [], _ => by simp [elementSteps]
  | value :: rest, h => by
    rw [itemEncoders, List.append_subset] at h
    rw [elementSteps, List.forall_mem_append]
    exact ⟨within_valueSteps join style .element _ _ level value h.1,
      within_elementSteps join style key level (index + 1) rest h.2⟩

theorem within_pairSteps (join : ScopeJoin) (scope : String) (level : Nat) :
    ∀ items : List Value, itemEncoders items ⊆ encoders →
      ∀ step ∈ pairSteps join scope level items, step.Within encoders
  | [], _ => by simp [pairSteps]
  | [first], h => by
    rw [itemEncoders, List.append_subset] at h
    rw [pairSteps]
    split
    · rw [List.forall_mem_append, pairSteps]
      exact ⟨within_inPlaceSteps join scope level first h.1, by simp⟩
    · simp
  | first :: second :: rest, h => by
    rw [itemEncoders, List.append_subset] at h
    have hrest := h.2
    rw [itemEncoders, List.append_subset] at hrest
    rw [pairSteps]
    split
    · rw [List.forall_mem_append]
      exact ⟨within_inPlaceSteps join scope level first h.1,
        within_pairSteps join scope level (second :: rest) h.2⟩
    · rw [List.forall_mem_cons]
      exact ⟨trivial, within_pairSteps join scope level rest hrest.2⟩

theorem within_inPlaceSteps (join : ScopeJoin) (scope : String) (level : Nat) :
    ∀ value : Value, value.encoders ⊆ encoders →
      ∀ step ∈ inPlaceSteps join scope level value, step.Within encoders
  | .map entries, h => by
    rw [inPlaceSteps]
    exact within_enclosed (within_entrySteps join {} scope level entries h)
  | .struct fields, h => by
    rw [inPlaceSteps]
    refine within_enclosed (List.forall_mem_append.2 ⟨?_, ?_⟩)
    · exact within_fieldSteps join scope level fields h
    · exact within_promotedSteps join scope level fields h
  | .pointer _ value, h => by
    rw [inPlaceSteps]
    exact within_inPlaceSteps join scope level value h
  | .absent _, _ | .bool _, _ | .int _, _ | .uint _, _ | .single _, _ | .double _, _ | .char _, _
  | .text _, _ | .bytes _, _ | .time _, _ | .seq _, _ | .custom _ _, _ => by simp [inPlaceSteps]

theorem within_valueSteps (join : ScopeJoin) (style : Style) (place : Place)
    (scope key : String) (level : Nat) :
    ∀ value : Value, value.encoders ⊆ encoders →
      ∀ step ∈ valueSteps join style place scope key level value, step.Within encoders
  | .custom encoder _, h | .absent (some encoder), h => by
    rw [valueSteps, List.forall_mem_singleton]
    exact h (by simp [Value.encoders])
  | .seq items, h => by
    cases place with
    | slot =>
      cases hlayout : style.layout with
      | joined separator =>
        simp only [valueSteps, hlayout]
        split
        · simp
        · rw [List.forall_mem_singleton]
          trivial
      | brackets | numbered | indexed | repeated =>
        simp only [valueSteps, hlayout]
        exact within_elementSteps join style key level 0 items h
    | element =>
      rw [valueSteps]
      exact within_enclosed (within_pairSteps join key (level + 1) items h)
  | .map entries, h => by
    rw [valueSteps]
    exact within_enclosed (within_entrySteps join style scope (level + 1) entries h)
  | .struct fields, h => by
    rw [valueSteps]
    refine within_enclosed (List.forall_mem_append.2 ⟨?_, ?_⟩)
    · exact within_fieldSteps join scope (level + 1) fields h
    · exact within_promotedSteps join scope (level + 1) fields h
  | .pointer _ value, h => by
    rw [valueSteps]
    exact within_valueSteps join style place scope key level value h
  | .absent none, _ | .bool _, _ | .int _, _ | .uint _, _ | .single _, _ | .double _, _
  | .char _, _ | .text _, _ | .bytes _, _ | .time _, _ => by
    simp only [valueSteps, List.forall_mem_singleton]
    trivial

end

theorem within_querySteps (bytes : List UInt8) :
    ∀ step ∈ querySteps bytes, step.Within encoders := by
  intro step h
  obtain ⟨kv, _, rfl⟩ := List.mem_map.1 h
  trivial

end Encoding

/-! ## Roots -/

/-- A value of this kind can be a root. -/
def Kind.isRoot : Kind → Bool
  | null | text | bytes | seq | map | struct => true
  | _ => false

namespace Encoding

/-- A walk through a root hands keys to no encoders but those in the value, and refuses nothing. -/
theorem within_rootSteps (join : ScopeJoin) :
    ∀ value : Value, value.kind.isRoot = true →
      ∀ step ∈ rootSteps join value, step.Within value.encoders
  | .absent _, _ => by simp [rootSteps]
  | .text _, _ | .bytes _, _ => within_querySteps _
  | .int n, h => by
    rw [rootSteps]
    split
    · next hn => simp [Value.kind, hn, Kind.isRoot] at h
    · exact within_querySteps _
  | .uint n, h => by
    rw [rootSteps]
    split
    · next hn => simp [Value.kind, hn, Kind.isRoot] at h
    · exact within_querySteps _
  | .seq items, _ => within_enclosed (within_pairSteps join "" 0 items (List.Subset.refl _))
  | .map entries, _ => within_inPlaceSteps join "" 0 (.map entries) (List.Subset.refl _)
  | .struct fields, _ => within_inPlaceSteps join "" 0 (.struct fields) (List.Subset.refl _)
  | .pointer _ value, h => within_rootSteps join value h

/-- Any other root is refused by the name of its kind, before all else. -/
theorem rootSteps_of_not_isRoot (join : ScopeJoin) :
    ∀ value : Value, value.kind.isRoot = false → rootSteps join value = [.refuse value.kind]
  | .bool _, _ | .single _, _ | .double _, _ | .char _, _ | .time _, _ | .custom _ _, _ => rfl
  | .int n, h => by
    cases hn : Value.fitsSigned n with
    | true => simp [rootSteps, Value.kind, hn]
    | false => simp [Value.kind, hn, Kind.isRoot] at h
  | .uint n, h => by
    cases hn : Value.fitsUnsigned n with
    | true => simp [rootSteps, Value.kind, hn]
    | false => simp [Value.kind, hn, Kind.isRoot] at h
  | .pointer _ value, h => rootSteps_of_not_isRoot join value h

theorem mem_encoders_of_mem_rootSteps {join : ScopeJoin} {value : Value} {encoder : CustomEncoder}
    {key : String} (h : .custom encoder key ∈ rootSteps join value) : encoder ∈ value.encoders := by
  cases hroot : value.kind.isRoot with
  | true => exact within_rootSteps join value hroot _ h
  | false =>
    rw [rootSteps_of_not_isRoot join value hroot] at h
    cases List.mem_singleton.1 h

end Encoding

/-! ## What an encoding keeps -/

section Keeps

variable (P : Params → Prop)

/-- With any key, and error or no error, the encoder keeps what holds of the parameters. -/
def CustomEncoder.Keeps (encoder : CustomEncoder) : Prop :=
  ∀ key p, P p → P (encoder.run key p).1

/-- If the step hands a key to an encoder, the encoder keeps what holds of the parameters. -/
def Step.Keeps : Step → Prop
  | .custom encoder _ => encoder.Keeps P
  | _ => True

namespace Encoding

variable {P}

/-- **One step keeps what adding and the encoders keep.** -/
theorem keeps_step (hadd : ∀ p key value, P p → P (p.add key value)) (limit : Nat) :
    ∀ {step : Step}, step.Keeps P → ∀ {p : Params}, P p → P (outcome limit [step] p).2
  | .write key value, _, p, hp => hadd p key value hp
  | .custom encoder key, h, p, hp => by
    have hrun := h key p hp
    rw [outcome_custom, CustomEncoder.outcome]
    cases hresult : encoder.run key p with
    | mk q failure =>
      rw [hresult] at hrun
      cases failure <;> exact hrun
  | .enter scope level, _, p, hp => by
    rw [outcome_enter]
    split <;> exact hp
  | .leave, _, _, hp | .refuse _, _, _, hp => hp

/-- **Steps keep what adding and the encoders keep**, error or no error. -/
theorem keeps_outcome (hadd : ∀ p key value, P p → P (p.add key value)) (limit : Nat) :
    ∀ {steps : List Step}, (∀ step ∈ steps, step.Keeps P) → ∀ {p : Params}, P p →
      P (outcome limit steps p).2
  | [], _, _, hp => hp
  | step :: rest, h, p, hp => by
    obtain ⟨hstep, hrest⟩ := List.forall_mem_cons.1 h
    have hq := keeps_step hadd limit hstep hp
    rw [outcome_cons]
    cases hone : outcome limit [step] p with
    | mk result q =>
      rw [hone] at hq
      cases result with
      | error e => exact hq
      | ok => exact keeps_outcome hadd limit hrest hq

theorem keeps_rootSteps (join : ScopeJoin) {value : Value}
    (h : ∀ encoder ∈ value.encoders, encoder.Keeps P) :
    ∀ step ∈ rootSteps join value, step.Keeps P
  | .custom encoder _, hmem => h encoder (mem_encoders_of_mem_rootSteps hmem)
  | .write _ _, _ | .enter _ _, _ | .leave, _ | .refuse _, _ => trivial

theorem keeps_encodeInto (hadd : ∀ p key value, P p → P (p.add key value)) (config : Config)
    {value : Value} (h : ∀ encoder ∈ value.encoders, encoder.Keeps P) {p : Params} (hp : P p) :
    P (value.encodeInto config p).2 := by
  rw [Value.encodeInto_eq]
  exact keeps_outcome hadd config.maxDepth (keeps_rootSteps config.scopeJoin h) hp

end Encoding

end Keeps

end UrlQuery
