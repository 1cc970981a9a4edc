import UrlQuery.Proofs.Encoding.Depth
import UrlQuery.Proofs.Encoding.Sequence

/-!
# Open containers

A container is open from the step that enters it to the step that leaves it, which stands where its
visit ends: all that the visit does lies between the two (`isVisit_inPlace`, `isVisit_value`,
`isVisit_pairs`). How many containers are open at a time is how deep a walk recurses.

The limit of the depth bounds that number, but for promoted structs, which take over the level of
the struct around them. Without them a level has room for two containers, a sequence read in pairs
and a map or struct in it; where at most `n` structs are promoted one inside the other, for `n`
more (`Value.openAfter_le`). So the bound is `(n + 2) * (limit + 1)`, and a walk that needs more
exceeds the limit. Promoted structs do count: with three structs in place of one another there are
three containers open at level 0 (`Value.openAfter_promoted`).
-/

namespace UrlQuery

/-! ## Promoted structs -/

mutual

/-- The most structs below a struct that are promoted one inside the other. -/
def Value.promotedBelow : Value → Nat
  | .struct fields => promotedBelowFields fields
  | .pointer _ value => value.promotedBelow
  | _ => 0

/-- The most structs that the fields promote, one inside the other. -/
def Value.promotedBelowFields : List (Field × Value) → Nat
  | [] => 0
  | (field, value) :: rest =>
    max (if Field.isPromoted (field, value) then value.promotedBelow + 1 else 0)
      (promotedBelowFields rest)

end

mutual

/-- The most structs anywhere in a value that are promoted one inside the other. -/
def Value.promotion : Value → Nat
  | .seq items => itemsPromotion items
  | .map entries => entriesPromotion entries
  | .struct fields => max (promotedBelowFields fields) (fieldsPromotion fields)
  | .pointer _ value => value.promotion
  | _ => 0

/-- The most in the elements of a sequence. -/
def Value.itemsPromotion : List Value → Nat
  | [] => 0
  | value :: rest => max value.promotion (itemsPromotion rest)

/-- The most in the values of a map. -/
def Value.entriesPromotion : List (Value × Value) → Nat
  | [] => 0
  | (_, value) :: rest => max value.promotion (entriesPromotion rest)

/-- The most in the fields of a struct. -/
def Value.fieldsPromotion : List (Field × Value) → Nat
  | [] => 0
  | (_, value) :: rest => max value.promotion (fieldsPromotion rest)

end

theorem Value.promotedBelow_le_promotion : ∀ value : Value, value.promotedBelow ≤ value.promotion
  | .struct fields => by
    rw [promotedBelow, promotion]
    exact Nat.le_max_left _ _
  | .pointer _ value => by
    rw [promotedBelow, promotion]
    exact promotedBelow_le_promotion value
  | .absent _ | .bool _ | .int _ | .uint _ | .single _ | .double _ | .char _ | .text _ | .bytes _
  | .time _ | .seq _ | .map _ | .custom _ _ => by
    simp only [promotedBelow]
    exact Nat.zero_le _

/-- The step enters nothing and leaves nothing. -/
def Step.isPlain : Step → Bool
  | enter _ _ | leave => false
  | _ => true

namespace Encoding

open Value (promotedBelow_le_promotion promotedBelowFields itemsPromotion entriesPromotion
  fieldsPromotion)

/-! ## Counting -/

/-- How many containers are open after steps, if `n` are open before them. -/
def openAfter (n : Nat) (steps : List Step) : Nat :=
  steps.foldl
    (fun n step =>
      match step with
      | .enter _ _ => n + 1
      | .leave => n - 1
      | _ => n)
    n

@[simp] theorem openAfter_nil (n : Nat) : openAfter n [] = n := rfl

@[simp] theorem openAfter_enter (n : Nat) (scope : String) (level : Nat) (rest : List Step) :
    openAfter n (.enter scope level :: rest) = openAfter (n + 1) rest := rfl

@[simp] theorem openAfter_leave (n : Nat) (rest : List Step) :
    openAfter n (.leave :: rest) = openAfter (n - 1) rest := rfl

@[simp] theorem openAfter_append (n : Nat) (a b : List Step) :
    openAfter n (a ++ b) = openAfter (openAfter n a) b :=
  List.foldl_append

theorem openAfter_of_isPlain : ∀ {steps : List Step}, (∀ step ∈ steps, step.isPlain = true) →
    ∀ n, openAfter n steps = n
  | [], _, _ => rfl
  | .write _ _ :: _, h, n | .custom _ _ :: _, h, n | .refuse _ :: _, h, n =>
    openAfter_of_isPlain (fun step hstep => h step (List.mem_cons_of_mem _ hstep)) n
  | .enter _ _ :: _, h, _ | .leave :: _, h, _ => absurd (h _ List.mem_cons_self) nofun

/-- Steps that leave all that they enter, and each container before the one around it. -/
inductive Balanced : List Step → Prop where
  | plain {steps : List Step} (h : ∀ step ∈ steps, step.isPlain = true) : Balanced steps
  | append {a b : List Step} (ha : Balanced a) (hb : Balanced b) : Balanced (a ++ b)
  | enclosed {scope : String} {level : Nat} {body : List Step} (h : Balanced body) :
    Balanced (.enter scope level :: body ++ [.leave])

theorem Balanced.openAfter_eq {steps : List Step} (h : Balanced steps) :
    ∀ n, openAfter n steps = n := by
  induction h with
  | plain h => exact openAfter_of_isPlain h
  | append _ _ iha ihb =>
    intro n
    rw [openAfter_append, iha, ihb]
  | enclosed _ ih =>
    intro n
    rw [List.cons_append, openAfter_enter, openAfter_append, ih]
    rfl

/--
The steps leave all that they enter, and where they enter no level below `limit` at most `bound`
of their containers are open at a time.
-/
structure Opens (limit bound : Nat) (steps : List Step) : Prop where
  balanced : Balanced steps
  le : ∀ before, before <+: steps → (∀ step ∈ before, step.fits limit = true) →
    ∀ n, openAfter n before ≤ n + bound

variable {limit bound : Nat}

theorem Opens.mono {bound' : Nat} {steps : List Step} (h : Opens limit bound steps)
    (hle : bound ≤ bound') : Opens limit bound' steps :=
  ⟨h.balanced, fun before hpre hfits n =>
    Nat.le_trans (h.le before hpre hfits n) (Nat.add_le_add_left hle n)⟩

theorem opens_of_isPlain {steps : List Step} (h : ∀ step ∈ steps, step.isPlain = true) :
    Opens limit bound steps := by
  refine ⟨.plain h, fun before hpre _ n => ?_⟩
  rw [openAfter_of_isPlain fun step hstep => h step (hpre.subset hstep)]
  exact Nat.le_add_right n bound

/-- One part after the other has no more open than each has. -/
theorem Opens.append {a b : List Step} (ha : Opens limit bound a) (hb : Opens limit bound b) :
    Opens limit bound (a ++ b) := by
  constructor
  · exact ha.balanced.append hb.balanced
  · rintro before ⟨after, hsplit⟩ hfits n
    rcases List.append_eq_append_iff.1 hsplit with ⟨c, rfl, -⟩ | ⟨c, rfl, rfl⟩
    · exact ha.le before (List.prefix_append before c) hfits n
    · -- All of `a` is done, and has left what it entered.
      rw [openAfter_append, ha.balanced.openAfter_eq]
      exact hb.le c (List.prefix_append c after)
        (fun step hstep => hfits step (List.mem_append_right a hstep)) n

/-- A container is one more than those inside of it, if its level is within the limit. -/
theorem Opens.enclosed {inner : Nat} {scope : String} {level : Nat} {steps : List Step}
    (h : Opens limit inner steps) (hbound : level ≤ limit → inner + 1 ≤ bound) :
    Opens limit bound (.enter scope level :: steps ++ [.leave]) := by
  constructor
  · exact h.balanced.enclosed
  · rintro before ⟨after, hsplit⟩ hfits n
    cases before with
    | nil => exact Nat.le_add_right n bound
    | cons first before =>
      rw [List.cons_append, List.cons_append, List.cons.injEq] at hsplit
      obtain ⟨rfl, hsplit⟩ := hsplit
      obtain ⟨hfirst, hfits⟩ := List.forall_mem_cons.1 hfits
      have hroom : inner + 1 ≤ bound := hbound (of_decide_eq_true hfirst)
      rw [openAfter_enter]
      rcases List.append_eq_append_iff.1 hsplit with ⟨c, rfl, -⟩ | ⟨c, rfl, hc⟩
      · have hle := h.le before (List.prefix_append before c) hfits (n + 1)
        omega
      · -- The container itself is the last to be left.
        rw [openAfter_append, h.balanced.openAfter_eq]
        cases c with
        | nil =>
          rw [openAfter_nil]
          omega
        | cons last c =>
          rw [List.cons_append, List.cons.injEq] at hc
          obtain ⟨rfl, hc⟩ := hc
          obtain ⟨rfl, -⟩ := List.append_eq_nil_iff.1 hc.symm
          rw [openAfter_leave, openAfter_nil]
          omega

/-! ## The containers of a walk -/

/-- The containers that the levels below `level` have room for. -/
def roomBelow (promotion limit level : Nat) : Nat :=
  (promotion + 2) * (limit - level)

/-- The next level takes up all that it has room for. -/
theorem roomBelow_succ {promotion limit level : Nat} (h : level + 1 ≤ limit) :
    roomBelow promotion limit level
      = roomBelow promotion limit (level + 1) + (promotion + 2) := by
  have hsub : limit - level = limit - (level + 1) + 1 := by omega
  rw [roomBelow, hsub, Nat.mul_succ, roomBelow]

variable {promotion : Nat}

mutual

theorem opens_fieldSteps (join : ScopeJoin) (scope : String) (level : Nat) :
    ∀ fields : List (Field × Value), fieldsPromotion fields ≤ promotion →
      Opens limit (roomBelow promotion limit level) (fieldSteps join scope level fields)
  | [], _ => by
    rw [fieldSteps]
    exact opens_of_isPlain nofun
  | (field, value) :: rest, h => by
    rw [fieldsPromotion, Nat.max_le] at h
    rw [fieldSteps]
    refine Opens.append ?_ (opens_fieldSteps join scope level rest h.2)
    split
    · exact opens_of_isPlain nofun
    · exact opens_valueSteps join _ _ _ _ level value h.1

theorem opens_promotedSteps (join : ScopeJoin) (scope : String) (level : Nat) {below : Nat} :
    ∀ fields : List (Field × Value), promotedBelowFields fields ≤ below →
      fieldsPromotion fields ≤ promotion →
      Opens limit (below + roomBelow promotion limit level) (promotedSteps join scope level fields)
  | [], _, _ => by
    rw [promotedSteps]
    exact opens_of_isPlain nofun
  | (field, value) :: rest, hbelow, h => by
    rw [fieldsPromotion, Nat.max_le] at h
    rw [promotedBelowFields, Nat.max_le, Field.isPromoted_eq] at hbelow
    rw [promotedSteps]
    refine Opens.append ?_ (opens_promotedSteps join scope level rest hbelow.2 h.2)
    split
    · next hpromoted =>
      -- The promoted struct and those below it are no more than `below`.
      have hvalue : value.promotedBelow + 1 ≤ below := by
        have hle := hbelow.1
        rwa [if_pos hpromoted] at hle
      exact (opens_inPlaceSteps join scope level value h.1).mono (by omega)
    · exact opens_of_isPlain nofun

theorem opens_entrySteps (join : ScopeJoin) (style : Style) (scope : String) (level : Nat) :
    ∀ entries : List (Value × Value), entriesPromotion entries ≤ promotion →
      Opens limit (roomBelow promotion limit level) (entrySteps join style scope level entries)
  | [], _ => by
    rw [entrySteps]
    exact opens_of_isPlain nofun
  | (name, value) :: rest, h => by
    rw [entriesPromotion, Nat.max_le] at h
    rw [entrySteps]
    refine Opens.append ?_ (opens_entrySteps join style scope level rest h.2)
    split
    · exact opens_of_isPlain nofun
    · exact opens_valueSteps join style .slot _ _ level value h.1

theorem opens_elementSteps (join : ScopeJoin) (style : Style) (key : String)
    (level index : Nat) :
    ∀ items : List Value, itemsPromotion items ≤ promotion →
      Opens limit (roomBelow promotion limit level) (elementSteps join style key level index items)
  | [], _ => by
    rw [elementSteps]
    exact opens_of_isPlain nofun
  | value :: rest, h => by
    rw [itemsPromotion, Nat.max_le] at h
    rw [elementSteps]
    exact Opens.append (opens_valueSteps join style .element _ _ level value h.1)
      (opens_elementSteps join style key level (index + 1) rest h.2)

/-- A sequence read in pairs has a map or struct open beside what that promotes. -/
theorem opens_pairSteps (join : ScopeJoin) (scope : String) (level : Nat) :
    ∀ items : List Value, itemsPromotion items ≤ promotion →
      Opens limit (promotion + 1 + roomBelow promotion limit level)
        (pairSteps join scope level items)
  | [], _ => by
    rw [pairSteps]
    exact opens_of_isPlain nofun
  | [first], h => by
    rw [itemsPromotion, Nat.max_le] at h
    rw [pairSteps]
    split
    · refine Opens.append ?_ ?_
      · have hbelow := Nat.le_trans (promotedBelow_le_promotion first) h.1
        exact (opens_inPlaceSteps join scope level first h.1).mono (by omega)
      · rw [pairSteps]
        exact opens_of_isPlain nofun
    · exact opens_of_isPlain nofun
  | first :: second :: rest, h => by
    rw [itemsPromotion, Nat.max_le] at h
    have hrest := h.2
    rw [itemsPromotion, Nat.max_le] at hrest
    rw [pairSteps]
    split
    · refine Opens.append ?_ (opens_pairSteps join scope level (second :: rest) h.2)
      have hbelow := Nat.le_trans (promotedBelow_le_promotion first) h.1
      exact (opens_inPlaceSteps join scope level first h.1).mono (by omega)
    · exact Opens.append (a := [_]) (opens_of_isPlain (by simp [Step.isPlain]))
        (opens_pairSteps join scope level rest hrest.2)

/-- A map or struct that takes over a level is open on that level, with what it promotes. -/
theorem opens_inPlaceSteps (join : ScopeJoin) (scope : String) (level : Nat) :
    ∀ value : Value, value.promotion ≤ promotion →
      Opens limit (value.promotedBelow + 1 + roomBelow promotion limit level)
        (inPlaceSteps join scope level value)
  | .map entries, h => by
    rw [inPlaceSteps]
    exact (opens_entrySteps join {} scope level entries h).enclosed fun _ => by omega
  | .struct fields, h => by
    rw [Value.promotion, Nat.max_le] at h
    have hfields := opens_fieldSteps join scope level fields h.2
    have hpromoted := opens_promotedSteps join scope level fields (Nat.le_refl _) h.2
    rw [inPlaceSteps, Value.promotedBelow]
    exact ((hfields.mono (Nat.le_add_left _ _)).append hpromoted).enclosed fun _ => by omega
  | .pointer _ value, h => by
    rw [inPlaceSteps, Value.promotedBelow]
    exact opens_inPlaceSteps join scope level value h
  | .absent _, _ | .bool _, _ | .int _, _ | .uint _, _ | .single _, _ | .double _, _ | .char _, _
  | .text _, _ | .bytes _, _ | .time _, _ | .seq _, _ | .custom _ _, _ => by
    simp only [inPlaceSteps]
    exact opens_of_isPlain nofun

/-- A value under a key opens no more than the levels below have room for. -/
theorem opens_valueSteps (join : ScopeJoin) (style : Style) (place : Place)
    (scope key : String) (level : Nat) :
    ∀ value : Value, value.promotion ≤ promotion →
      Opens limit (roomBelow promotion limit level)
        (valueSteps join style place scope key level value)
  | .custom encoder _, _ | .absent (some encoder), _ => by
    rw [valueSteps]
    exact opens_of_isPlain (by simp [Step.isPlain])
  | .seq items, h => by
    cases place with
    | slot =>
      cases hlayout : style.layout with
      | joined separator =>
        simp only [valueSteps, hlayout]
        exact opens_of_isPlain (by split <;> simp [Step.isPlain])
      | brackets | numbered | indexed | repeated =>
        simp only [valueSteps, hlayout]
        exact opens_elementSteps join style key level 0 items h
    | element =>
      rw [valueSteps]
      refine (opens_pairSteps join key (level + 1) items h).enclosed fun hlevel => ?_
      rw [roomBelow_succ hlevel]
      omega
  | .map entries, h => by
    rw [valueSteps]
    refine (opens_entrySteps join style scope (level + 1) entries h).enclosed fun hlevel => ?_
    rw [roomBelow_succ hlevel]
    omega
  | .struct fields, h => by
    rw [Value.promotion, Nat.max_le] at h
    have hfields := opens_fieldSteps join scope (level + 1) fields h.2
    have hpromoted := opens_promotedSteps join scope (level + 1) fields h.1 h.2
    rw [valueSteps]
    refine ((hfields.mono (Nat.le_add_left _ _)).append hpromoted).enclosed fun hlevel => ?_
    rw [roomBelow_succ hlevel]
    omega
  | .pointer _ value, h => by
    rw [valueSteps]
    exact opens_valueSteps join style place scope key level value h
  | .absent none, _ | .bool _, _ | .int _, _ | .uint _, _ | .single _, _ | .double _, _
  | .char _, _ | .text _, _ | .bytes _, _ | .time _, _ => by
    simp only [valueSteps]
    exact opens_of_isPlain (by simp [Step.isPlain])

end

theorem opens_querySteps (bytes : List UInt8) : Opens limit bound (querySteps bytes) := by
  refine opens_of_isPlain fun step hstep => ?_
  obtain ⟨kv, -, rfl⟩ := List.mem_map.1 hstep
  rfl

/-- **A walk opens no more containers than its levels have room for.** -/
theorem opens_rootSteps (join : ScopeJoin) :
    ∀ value : Value, Opens limit ((value.promotion + 2) * (limit + 1)) (rootSteps join value)
  | .absent _ => opens_of_isPlain nofun
  | .text _ | .bytes _ => opens_querySteps _
  | .int _ | .uint _ => by
    rw [rootSteps]
    split
    · exact opens_of_isPlain (by simp [Step.isPlain])
    · exact opens_querySteps _
  | .seq items => by
    rw [rootSteps]
    refine Opens.enclosed (opens_pairSteps join "" 0 items (Nat.le_refl _)) fun _ => ?_
    rw [roomBelow, Value.promotion, Nat.sub_zero, Nat.mul_succ]
    omega
  | .map entries => by
    rw [rootSteps]
    have hbelow := promotedBelow_le_promotion (.map entries)
    refine (opens_inPlaceSteps join "" 0 (.map entries) (Nat.le_refl _)).mono ?_
    rw [roomBelow, Nat.sub_zero, Nat.mul_succ]
    omega
  | .struct fields => by
    have hbelow := promotedBelow_le_promotion (.struct fields)
    rw [rootSteps]
    refine (opens_inPlaceSteps join "" 0 (.struct fields) (Nat.le_refl _)).mono ?_
    rw [roomBelow, Nat.sub_zero, Nat.mul_succ]
    omega
  | .pointer _ value => opens_rootSteps join value
  | .bool _ | .single _ | .double _ | .char _ | .time _ | .custom _ _ =>
    opens_of_isPlain (by simp [rootSteps, Step.isPlain])

/-! ## Visits -/

/--
What is done at a container visits it: it enters the container, does steps that leave all that they
enter, and leaves the container when they are done. Nothing is done besides.
-/
def IsVisit (config : Config) (scope : String) (level : Nat) (visit : Encoding Unit)
    (steps : List Step) : Prop :=
  ∃ body, Balanced body ∧ steps = .enter scope level :: body ++ [.leave] ∧
    visit = (do enter config scope level; runSteps config.maxDepth body)

theorem balanced_structBody (join : ScopeJoin) (scope : String) (level : Nat)
    (fields : List (Field × Value)) :
    Balanced (fieldSteps join scope level fields ++ promotedSteps join scope level fields) :=
  .append (@opens_fieldSteps 0 _ join scope level fields (Nat.le_refl _)).balanced
    (@opens_promotedSteps 0 _ join scope level _ fields (Nat.le_refl _) (Nat.le_refl _)).balanced

theorem balanced_entrySteps (join : ScopeJoin) (style : Style) (scope : String) (level : Nat)
    (entries : List (Value × Value)) : Balanced (entrySteps join style scope level entries) :=
  (@opens_entrySteps 0 _ join style scope level entries (Nat.le_refl _)).balanced

theorem balanced_pairSteps (join : ScopeJoin) (scope : String) (level : Nat)
    (items : List Value) : Balanced (pairSteps join scope level items) :=
  (@opens_pairSteps 0 _ join scope level items (Nat.le_refl _)).balanced

/-- **A map or struct that takes over a level is left where its visit ends.** -/
theorem isVisit_inPlace (config : Config) (scope : String) (level : Nat) :
    ∀ {value : Value}, value.isContainer = true →
      IsVisit config scope level (visitInPlace config scope level value)
        (inPlaceSteps config.scopeJoin scope level value)
  | .map entries, _ => by
    refine ⟨_, balanced_entrySteps config.scopeJoin {} scope level entries, ?_, ?_⟩
    · rw [inPlaceSteps]
    · rw [visitInPlace, visitEntries_eq]
  | .struct fields, _ => by
    refine ⟨_, balanced_structBody config.scopeJoin scope level fields, ?_, ?_⟩
    · rw [inPlaceSteps]
    · rw [visitInPlace, visitFields_eq, visitPromoted_eq, runSteps_append]
  | .pointer _ value, h => by
    rw [visitInPlace, inPlaceSteps]
    exact isVisit_inPlace config scope level h

/-- **A map or struct below what holds it is left where its visit ends.** -/
theorem isVisit_value (config : Config) (style : Style) (place : Place) (scope key : String)
    (level : Nat) :
    ∀ {value : Value}, value.isContainer = true →
      IsVisit config scope (level + 1) (visitValue config style place scope key level value)
        (valueSteps config.scopeJoin style place scope key level value)
  | .map entries, _ => by
    refine ⟨_, balanced_entrySteps config.scopeJoin style scope (level + 1) entries, ?_, ?_⟩
    · rw [valueSteps]
    · rw [visitValue, visitEntries_eq]
  | .struct fields, _ => by
    refine ⟨_, balanced_structBody config.scopeJoin scope (level + 1) fields, ?_, ?_⟩
    · rw [valueSteps]
    · rw [visitValue, visitFields_eq, visitPromoted_eq, runSteps_append]
  | .pointer _ value, h => by
    rw [visitValue, valueSteps]
    exact isVisit_value config style place scope key level h

/-- **A sequence read in pairs is left where its visit ends**, as an element or at the root. -/
theorem isVisit_pairs (config : Config) (style : Style) (scope key : String) (level : Nat)
    (items : List Value) :
    IsVisit config key (level + 1) (visitValue config style .element scope key level (.seq items))
      (valueSteps config.scopeJoin style .element scope key level (.seq items)) ∧
    IsVisit config "" 0 (visitRoot config (.seq items))
      (rootSteps config.scopeJoin (.seq items)) := by
  constructor
  · refine ⟨_, balanced_pairSteps config.scopeJoin key (level + 1) items, ?_, ?_⟩
    · rw [valueSteps]
    · rw [visitValue, visitPairs_eq]
  · refine ⟨_, balanced_pairSteps config.scopeJoin "" 0 items, ?_, ?_⟩
    · rw [rootSteps]
    · rw [visitRoot, visitPairs_eq]

/-! ## Runs -/

/-- A walk through a value under a limit does these first steps without an error. -/
def Reaches (limit : Nat) (join : ScopeJoin) (value : Value) (p : Params) (steps : List Step) :
    Prop :=
  steps <+: rootSteps join value ∧ ∃ q, outcome limit steps p = (.ok (), q)

/--
Steps that get through under some limit get through under this one too, or exceed it. By induction
on the steps: before the first that enters a level below this limit, both do the same.
-/
theorem fits_or_depthLimit (limit : Nat) {limit' : Nat} :
    ∀ {steps : List Step} {p q : Params}, outcome limit' steps p = (.ok (), q) →
      (∀ step ∈ steps, step.fits limit = true) ∨
        ∃ key left, outcome limit steps p = (.error (.depthLimit key limit), left)
  | [], _, _, _ => .inl nofun
  | step :: rest, p, q, h => by
    by_cases hfits : step.fits limit = true
    · rw [outcome_cons] at h
      cases hstep : outcome limit' [step] p with
      | mk result r =>
        rw [hstep] at h
        cases result with
        | error e => cases h
        | ok =>
          have hsame : outcome limit [step] p = (.ok (), r) := by
            cases step with
            | enter scope level =>
              rw [outcome_enter] at hstep ⊢
              rw [if_neg (Nat.not_lt.2 (of_decide_eq_true hfits))]
              split at hstep
              · cases hstep
              · exact hstep
            | write _ _ | custom _ _ | leave | refuse _ => exact hstep
          rcases fits_or_depthLimit limit h with hrest | ⟨key, left, hrest⟩
          · exact .inl (List.forall_mem_cons.2 ⟨hfits, hrest⟩)
          · refine .inr ⟨key, left, ?_⟩
            rw [outcome_cons, hsame, Outcome.andThen_ok, hrest]
    · obtain ⟨scope, level, rfl, hlt, -, -⟩ := exists_enter_of_not_fits hfits rest
      refine .inr ⟨scope, p, ?_⟩
      rw [outcome_cons, outcome_enter, if_pos hlt, Outcome.andThen_error]

end Encoding

open Encoding

/--
**The limit of the depth bounds how many containers are open**, where at most `value.promotion`
structs are promoted one inside the other. No run has more than two on each level besides those;
and a value whose walk, under a greater limit, gets to have more exceeds this one.
-/
theorem Value.openAfter_le (config : Config) (value : Value) (p : Params) (steps : List Step) :
    (Reaches config.maxDepth config.scopeJoin value p steps →
      openAfter 0 steps ≤ (value.promotion + 2) * (config.maxDepth + 1)) ∧
    (∀ limit, Reaches limit config.scopeJoin value p steps →
      (value.promotion + 2) * (config.maxDepth + 1) < openAfter 0 steps →
      ∃ key left,
        value.encodeInto config p = (.error (.depthLimit key config.maxDepth), left)) := by
  have hopens : Opens config.maxDepth _ (rootSteps config.scopeJoin value) :=
    opens_rootSteps config.scopeJoin value
  constructor
  · rintro ⟨hpre, q, hrun⟩
    rcases fits_or_depthLimit config.maxDepth hrun with hfits | ⟨key, left, herror⟩
    · simpa using hopens.le steps hpre hfits 0
    · rw [hrun] at herror
      cases herror
  · rintro limit ⟨hpre, q, hrun⟩ hlt
    rcases fits_or_depthLimit config.maxDepth hrun with hfits | ⟨key, left, herror⟩
    · have hle := hopens.le steps hpre hfits 0
      omega
    · obtain ⟨after, hsplit⟩ := hpre
      refine ⟨key, left, ?_⟩
      rw [Value.encodeInto_eq, ← hsplit, outcome_append, herror, Outcome.andThen_error]

/-- On each of two levels a map lies in a sequence; one level is too few for them. -/
theorem Value.openAfter_le_pairs :
    let value := Value.seq [.map [(.text "a", .seq [.seq [.map [(.text "k", .int 1)]]])]]
    let steps := (rootSteps .brackets value).take 4
    (Reaches 1 .brackets value Params.empty steps ∧ value.promotion = 0 ∧
      openAfter 0 steps = (0 + 2) * (1 + 1)) ∧
    ∃ key left, value.encodeInto { maxDepth := 0 } Params.empty
      = (.error (.depthLimit key 0), left) := by
  intro value steps
  have hreaches : Reaches 1 .brackets value Params.empty steps :=
    ⟨List.take_prefix 4 _, Params.empty, by rfl⟩
  have hle := (Value.openAfter_le { maxDepth := 1 } value Params.empty steps).1 hreaches
  have hlimit := (Value.openAfter_le { maxDepth := 0 } value Params.empty steps).2 1 hreaches
    (by decide)
  exact ⟨⟨hreaches, by rfl, Nat.le_antisymm hle (by decide)⟩, hlimit⟩

/-- Three structs, each promoted into the one around it, are open at once on one level. -/
theorem Value.openAfter_promoted :
    let value := Value.struct [({ name := "a", embedded := true },
      .struct [({ name := "b", embedded := true }, .struct [({ name := "c" }, .int 1)])])]
    let steps := (rootSteps .brackets value).take 3
    Reaches 0 .brackets value Params.empty steps ∧ 2 * (0 + 1) < openAfter 0 steps ∧
      value.encodeInto { maxDepth := 0 } Params.empty
        = (.ok (), Params.ofPairs [("c", "1")]) := by
  intro value steps
  exact ⟨⟨List.take_prefix 3 _, Params.empty, by rfl⟩, by decide, by rfl⟩

end UrlQuery
