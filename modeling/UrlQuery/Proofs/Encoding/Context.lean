import UrlQuery.Proofs.Encoding.Leaves
import UrlQuery.Proofs.Encoding.Pairs

/-!
# Places in a value

A place in a value is given by all that stands around it: a `Value.Context` is a value with a hole,
one layer after the other from the outside in, and `Value.Context.fill` puts a value there.

The layers decide what a walk does with the value in the hole, which is its `Encoding.Role`. In each
role only a few things about a value count (`Role.Alike`): where it is the key of an entry, only its
text; where empty values are left out, also whether it is empty. So values that are alike in a role
are alike in every context that gives them this role (`alike_fill`).

What "alike" means is left open. It is said of the steps for all values that may stand in the hole,
and has to hold where these do not depend on the value, and to be kept where other steps stand
around them (`Framed`). To be the same steps for all is the first such property, and where it holds
all values give one result (`Value.Context.encodeInto_fill`).
-/

namespace UrlQuery

/-! ## Contexts -/

namespace Value

/-- One layer around a place. -/
inductive Frame where
  | item (before after : List Value)
  /-- The place is the key of an entry. -/
  | name (before : List (Value × Value)) (value : Value) (after : List (Value × Value))
  /-- The place is the value of an entry. -/
  | entry (before : List (Value × Value)) (key : Value) (after : List (Value × Value))
  | field (before : List (Field × Value)) (declared : Field) (after : List (Field × Value))
  | pointer (kind : Pointer)

/-- Puts a value into a layer. -/
def Frame.fill : Frame → Value → Value
  | .item before after, x => .seq (before ++ x :: after)
  | .name before value after, x => .map (before ++ (x, value) :: after)
  | .entry before key after, x => .map (before ++ (key, x) :: after)
  | .field before declared after, x => .struct (before ++ (declared, x) :: after)
  | .pointer kind, x => .pointer kind x

/-- A place in a value: the layers around it, the outermost first. -/
abbrev Context := List Frame

/-- Puts a value into the place. -/
def Context.fill : Context → Value → Value
  | [], x => x
  | frame :: inner, x => frame.fill (Context.fill inner x)

end Value

namespace Encoding

open Value (endsInKey)

/-! ## Roles -/

/-- What a walk does with a value, by the place where it meets it. -/
inductive Role where
  /-- It is encoded as the root. -/
  | root
  /-- It is written under a key of its own. Where this is `asked`, it is left out if it is empty. -/
  | keyed (style : Style) (place : Place) (asked : Bool)
  /-- It is read in pairs where no key waits: it is visited in place, or is a key itself. -/
  | paired
  /-- It is rendered: its text alone is read. -/
  | rendered (options : RenderOptions)
  /-- It is not read at all. -/
  | unread
  deriving DecidableEq, Repr

namespace Role

/-- The value is written under a key of its own, if it is read at all. -/
def isKeyed : Role → Bool
  | keyed _ _ _ | unread => true
  | root | paired | rendered _ => false

/-- The value is left out if it is empty, as in an entry and in a field that omits empty values. -/
def asksEmpty : Role → Bool
  | keyed _ _ asked => asked
  | root | paired | rendered _ | unread => false

end Role

/-- The role of an element that is read in pairs, by those before it. -/
def pairRole (before : List Value) : Role :=
  if endsInKey before then .rendered {} else .paired

/-- The role of an element, by that of its sequence. -/
def itemRole (before : List Value) : Role → Role
  | .root | .keyed _ .element _ => pairRole before
  | .keyed style .slot _ =>
    match style.layout with
    | .joined _ => .rendered style.options
    | _ => .keyed style .element false
  | .paired => .rendered {}
  | .rendered options => .rendered options
  | .unread => .unread

/-- The role of the key of an entry, by that of its map. -/
def nameRole : Role → Role
  | .root | .keyed _ _ _ | .paired => .rendered {}
  | .rendered _ | .unread => .unread

/-- The role of the value of an entry, by that of its map. -/
def entryRole : Role → Role
  | .root | .paired => .keyed {} .slot true
  | .keyed style _ _ => .keyed style .slot true
  | .rendered _ | .unread => .unread

/-- The role of the value of a field, by that of its struct. -/
def fieldRole (field : Field) : Role → Role
  | .root | .keyed _ _ _ | .paired =>
    if field.rules.skipped then .unread else .keyed field.rules.style .slot field.rules.omitEmpty
  | .rendered _ | .unread => .unread

/-- The role of a value behind a pointer. Only behind a reference can it still be left out. -/
def pointerRole (kind : Pointer) : Role → Role
  | .keyed style place asked => .keyed style place (asked && kind == .reference)
  | role => role

end Encoding

namespace Value

open Encoding (Role)

/-- The role of what stands in a layer, by that of the whole. -/
def Frame.role : Frame → Role → Role
  | .item before _, role => Encoding.itemRole before role
  | .name _ _ _, role => Encoding.nameRole role
  | .entry _ _ _, role => Encoding.entryRole role
  | .field _ declared _, role => Encoding.fieldRole declared role
  | .pointer kind, role => Encoding.pointerRole kind role

/-- The role of what stands in the place, by that of the whole. -/
def Context.roleIn : Context → Role → Role
  | [], role => role
  | frame :: inner, role => Context.roleIn inner (frame.role role)

/-- The role of what stands in the place, where the whole is encoded. -/
def Context.role (c : Context) : Role := c.roleIn .root

theorem Context.roleIn_append (inner : Context) :
    ∀ (outer : Context) (role : Role),
      Context.roleIn (outer ++ inner) role = inner.roleIn (outer.roleIn role)
  | [], _ => rfl
  | frame :: outer, role => Context.roleIn_append inner outer (frame.role role)

theorem Context.role_concat (outer : Context) (frame : Frame) :
    Context.role (outer ++ [frame]) = frame.role outer.role :=
  roleIn_append [frame] outer .root

/-- An element in an entry, in a field that is joined and in one that is not. -/
example :
    Context.role [.field [] { name := "a" } [], .entry [] (.text "k") [], .item [] []]
        = .keyed {} .element false ∧
      Context.role [.field [] { name := "a", tag := ",comma" } [], .entry [] (.text "k") [],
        .item [] []] = .rendered {} := by
  decide

end Value

namespace Encoding

open Value (Frame Context endsInKey)

variable {ι : Type}

/-! ## Values that are alike -/

/--
A property of steps that depend on an index. It holds where they do not, and is kept where steps
that do not depend on the index stand around.
-/
structure Framed (P : (ι → List Step) → Prop) : Prop where
  const (steps : List Step) : P fun _ => steps
  around (before after : List Step) {steps : ι → List Step} (h : P steps) :
    P fun i => before ++ steps i ++ after

/-- Values that are alike where they are written under a key of their own. -/
structure AlikeUnderKey (P : (ι → List Step) → Prop) (style : Style) (place : Place)
    (asked : Bool) (f : ι → Value) : Prop where
  isStruct : ∃ b, ∀ i, (f i).isStruct = b
  isEmpty (h : asked = true) : ∃ b, ∀ i, (f i).isEmpty = b
  steps (join : ScopeJoin) (scope key : String) (level : Nat) :
    P fun i => valueSteps join style place scope key level (f i)
  /-- A struct may be promoted, and is visited in place then. -/
  inPlace (h : ∀ i, (f i).isStruct = true) (join : ScopeJoin) (scope : String) (level : Nat) :
    P fun i => inPlaceSteps join scope level (f i)

/-- Values that are alike where they are read in pairs. -/
structure AlikeInPairs (P : (ι → List Step) → Prop) (f : ι → Value) : Prop where
  isContainer : ∃ b, ∀ i, (f i).isContainer = b
  text : ∃ text, ∀ i, (f i).render {} = text
  inPlace (join : ScopeJoin) (scope : String) (level : Nat) :
    P fun i => inPlaceSteps join scope level (f i)

/-- Values that are alike in a role. -/
def Role.Alike (P : (ι → List Step) → Prop) (f : ι → Value) : Role → Prop
  | root => ∀ join, P fun i => rootSteps join (f i)
  | keyed style place asked => AlikeUnderKey P style place asked f
  | paired => AlikeInPairs P f
  | rendered options => ∃ text, ∀ i, (f i).render options = text
  | unread => True

namespace Framed

variable {P : (ι → List Step) → Prop}

theorem congr {a b : ι → List Step} (ha : P a) (h : ∀ i, b i = a i) : P b := by
  rw [funext h]
  exact ha

theorem of_eq (hP : Framed P) {a : ι → List Step} (steps : List Step) (h : ∀ i, a i = steps) :
    P a :=
  congr (hP.const steps) h

/-- A container is entered before its steps, and left behind them. -/
theorem enclosed (hP : Framed P) (scope : String) (level : Nat) {steps : ι → List Step}
    (h : P steps) : P fun i => .enter scope level :: steps i ++ [.leave] :=
  hP.around [.enter scope level] [.leave] h

end Framed

/-- The steps are the same for all. -/
def Constant (steps : ι → List Step) : Prop :=
  ∀ i j, steps i = steps j

theorem framed_constant : Framed (Constant : (ι → List Step) → Prop) where
  const _ := fun _ _ => rfl
  around before after steps h := by
    intro i j
    show before ++ steps i ++ after = before ++ steps j ++ after
    rw [h i j]

/-! ## Among others -/

section Layers

variable {P : (ι → List Step) → Prop} {f : ι → Value}

/-- Among elements that are laid out. -/
theorem alike_elementSteps (hP : Framed P) {style : Style} {asked : Bool}
    (h : AlikeUnderKey P style .element asked f) (before after : List Value) (join : ScopeJoin)
    (key : String) (level index : Nat) :
    P fun i => elementSteps join style key level index (before ++ f i :: after) := by
  let elementKey := style.layout.elementKey key (index + before.length)
  refine Framed.congr (hP.around (elementSteps join style key level index before)
    (elementSteps join style key level (index + before.length + 1) after)
    (h.steps join elementKey elementKey level)) fun i => ?_
  rw [elementSteps_append, elementSteps, List.append_assoc]

/-- Among elements that are read in pairs. -/
theorem alike_pairSteps (hP : Framed P) {before : List Value} (h : (pairRole before).Alike P f)
    (after : List Value) (join : ScopeJoin) (scope : String) (level : Nat) :
    P fun i => pairSteps join scope level (before ++ f i :: after) := by
  unfold pairRole at h
  cases hwaits : endsInKey before with
  | true =>
    -- The element is the value of the key before it.
    rw [if_pos hwaits] at h
    obtain ⟨text, htext⟩ := h
    obtain ⟨pairs, key, rfl, hpairs, hkey⟩ := Value.exists_of_endsInKey hwaits
    refine hP.of_eq (pairSteps join scope level pairs
      ++ .write (key.render {}) text :: pairSteps join scope level after) fun i => ?_
    rw [List.append_assoc, pairSteps_append join scope level hpairs, List.singleton_append,
      (pairSteps_key join scope level hkey).2, htext i]
  | false =>
    rw [if_neg (by simp [hwaits])] at h
    obtain ⟨b, hb⟩ := h.isContainer
    cases b with
    | true =>
      refine Framed.congr (hP.around (pairSteps join scope level before)
        (pairSteps join scope level after) (h.inPlace join scope level)) fun i => ?_
      rw [pairSteps_append join scope level hwaits,
        pairSteps_cons_of_isContainer join scope level (hb i), List.append_assoc]
    | false =>
      -- The element is a key, of the element behind it if there is one.
      obtain ⟨text, htext⟩ := h.text
      cases after with
      | nil =>
        refine hP.of_eq (pairSteps join scope level before) fun i => ?_
        rw [pairSteps_append join scope level hwaits, (pairSteps_key join scope level (hb i)).1,
          List.append_nil]
      | cons second rest =>
        refine hP.of_eq (pairSteps join scope level before
          ++ .write text (second.render {}) :: pairSteps join scope level rest) fun i => ?_
        rw [pairSteps_append join scope level hwaits, (pairSteps_key join scope level (hb i)).2,
          htext i]

theorem exists_renderAll {options : RenderOptions}
    (h : ∃ text, ∀ i, (f i).render options = text) (before after : List Value) :
    ∃ texts, ∀ i, Value.renderAll options (before ++ f i :: after) = texts := by
  obtain ⟨text, htext⟩ := h
  refine ⟨before.map (·.render options) ++ text :: after.map (·.render options), fun i => ?_⟩
  rw [Value.renderAll_eq_map, List.map_append, List.map_cons, htext i]

/-- As the key of an entry. -/
theorem exists_entrySteps_name (h : ∃ text, ∀ i, (f i).render {} = text)
    (before : List (Value × Value)) (value : Value) (after : List (Value × Value))
    (join : ScopeJoin) (style : Style) (scope : String) (level : Nat) :
    ∃ steps, ∀ i, entrySteps join style scope level (before ++ (f i, value) :: after) = steps := by
  obtain ⟨text, htext⟩ := h
  refine ⟨entrySteps join style scope level (before ++ (.text text, value) :: after), fun i => ?_⟩
  rw [entrySteps_append, entrySteps_append, entrySteps, entrySteps, htext i, Value.render]

/-- As the value of an entry. -/
theorem alike_entrySteps (hP : Framed P) {style : Style} (h : AlikeUnderKey P style .slot true f)
    (before : List (Value × Value)) (name : Value) (after : List (Value × Value))
    (join : ScopeJoin) (scope : String) (level : Nat) :
    P fun i => entrySteps join style scope level (before ++ (name, f i) :: after) := by
  obtain ⟨b, hb⟩ := h.isEmpty rfl
  cases b with
  | true =>
    refine hP.of_eq (entrySteps join style scope level before
      ++ entrySteps join style scope level after) fun i => ?_
    rw [entrySteps_append, entrySteps, if_pos (hb i), List.nil_append]
  | false =>
    let key := join.join scope (name.render {})
    refine Framed.congr (hP.around (entrySteps join style scope level before)
      (entrySteps join style scope level after) (h.steps join key key level)) fun i => ?_
    rw [entrySteps_append, entrySteps, if_neg (by simp [hb i]), List.append_assoc]

/-- As the value of a field that is not promoted. -/
theorem alike_fieldSteps (hP : Framed P) {field : Field}
    (h : AlikeUnderKey P field.rules.style .slot field.rules.omitEmpty f)
    (hskipped : field.rules.skipped = false) (hpromotes : ∀ i, field.promotes (f i) = false)
    (join : ScopeJoin) (scope : String) (level : Nat) :
    P fun i => fieldSteps join scope level [(field, f i)] := by
  have hvisited : (∀ i, (field.rules.omitEmpty && (f i).isEmpty) = false) →
      P fun i => fieldSteps join scope level [(field, f i)] := fun homit =>
    Framed.congr (h.steps join _ _ level) fun i =>
      fieldSteps_of_visited join scope level hskipped (hpromotes i) (homit i)
  cases homit : field.rules.omitEmpty with
  | false => exact hvisited fun i => by rw [homit, Bool.false_and]
  | true =>
    obtain ⟨b, hb⟩ := h.isEmpty homit
    cases b with
    | false => exact hvisited fun i => by rw [hb i, Bool.and_false]
    | true =>
      refine hP.of_eq [] fun i => fieldSteps_of_passed join scope level ?_
      rw [homit, hb i, Bool.and_self, Bool.or_true]

/-- As the value of a field: all are visited in the order of the fields, or all are promoted. -/
theorem alike_fieldSteps_or_promotedSteps (hP : Framed P) {field : Field}
    (h : (fieldRole field .root).Alike P f) (join : ScopeJoin) (scope : String) (level : Nat) :
    ((P fun i => fieldSteps join scope level [(field, f i)]) ∧
        ∀ i, promotedSteps join scope level [(field, f i)] = []) ∨
      ((∀ i, fieldSteps join scope level [(field, f i)] = []) ∧
        P fun i => promotedSteps join scope level [(field, f i)]) := by
  cases hskipped : field.rules.skipped with
  | true =>
    refine .inl ⟨hP.of_eq [] fun i => ?_, fun i => ?_⟩
    · exact fieldSteps_of_passed join scope level (by rw [hskipped, Bool.true_or, Bool.true_or])
    · rw [promotedSteps, promotedSteps, hskipped]
      rfl
  | false =>
    have hread : AlikeUnderKey P field.rules.style .slot field.rules.omitEmpty f := by
      rw [fieldRole, hskipped] at h
      exact h
    obtain ⟨b, hb⟩ := hread.isStruct
    have hpromotes : ∀ i, field.promotes (f i)
        = (field.embedded && field.rules.explicitName.isNone && b) := by
      intro i
      rw [Field.promotes, hb i]
    cases hall : field.embedded && field.rules.explicitName.isNone && b with
    | false =>
      have hnone : ∀ i, field.promotes (f i) = false := fun i => (hpromotes i).trans hall
      exact .inl ⟨alike_fieldSteps hP hread hskipped hnone join scope level,
        fun i => promotedSteps_of_not_promotes join scope level (hnone i)⟩
    | true =>
      have hstruct : ∀ i, (f i).isStruct = true := fun i =>
        (hb i).trans (Bool.and_eq_true_iff.1 hall).2
      refine .inr ⟨fun i => fieldSteps_of_passed join scope level ?_,
        Framed.congr (hread.inPlace hstruct join scope level) fun i => ?_⟩
      · rw [hpromotes i, hall, Bool.or_true, Bool.true_or]
      · rw [promotedSteps, promotedSteps, hskipped, hpromotes i, hall, List.append_nil]
        rfl

/-- As the value of a field among others. -/
theorem alike_structSteps (hP : Framed P) {field : Field}
    (h : (fieldRole field .root).Alike P f) (before after : List (Field × Value))
    (join : ScopeJoin) (scope : String) (level : Nat) :
    P fun i => fieldSteps join scope level (before ++ (field, f i) :: after)
      ++ promotedSteps join scope level (before ++ (field, f i) :: after) := by
  have hsplit : ∀ i, fieldSteps join scope level (before ++ (field, f i) :: after)
      ++ promotedSteps join scope level (before ++ (field, f i) :: after)
      = fieldSteps join scope level before ++ fieldSteps join scope level [(field, f i)]
        ++ fieldSteps join scope level after
        ++ (promotedSteps join scope level before ++ promotedSteps join scope level [(field, f i)]
          ++ promotedSteps join scope level after) := by
    intro i
    rw [← List.singleton_append, ← List.append_assoc, fieldSteps_append, fieldSteps_append,
      promotedSteps_append, promotedSteps_append]
  rcases alike_fieldSteps_or_promotedSteps hP h join scope level with
    ⟨hsteps, hnone⟩ | ⟨hnone, hsteps⟩
  · refine Framed.congr (hP.around (fieldSteps join scope level before)
      (fieldSteps join scope level after ++ (promotedSteps join scope level before
        ++ promotedSteps join scope level after)) hsteps) fun i => ?_
    rw [hsplit, hnone, List.append_nil, List.append_assoc]
  · refine Framed.congr (hP.around (fieldSteps join scope level before
      ++ fieldSteps join scope level after ++ promotedSteps join scope level before)
      (promotedSteps join scope level after) hsteps) fun i => ?_
    rw [hsplit, hnone, List.append_nil]
    simp only [List.append_assoc]

/-! ## One layer -/

/-- A sequence that is not empty is no struct, and is never left out. -/
theorem alikeUnderKey_seq (hP : Framed P) {style : Style} {place : Place} {asked : Bool}
    {before after : List Value}
    (hsteps : ∀ join scope key level, P fun i =>
      valueSteps join style place scope key level (.seq (before ++ f i :: after))) :
    AlikeUnderKey P style place asked fun i => .seq (before ++ f i :: after) where
  isStruct := ⟨false, fun _ => rfl⟩
  isEmpty _ := ⟨false, fun i => by simp [Value.isEmpty, Value.isZero]⟩
  steps := hsteps
  inPlace _ _ _ _ := hP.const []

theorem alike_item (hP : Framed P) {role : Role} {before : List Value}
    (h : (itemRole before role).Alike P f) (after : List Value) :
    role.Alike P fun i => .seq (before ++ f i :: after) := by
  cases role with
  | root =>
    intro join
    exact hP.enclosed "" 0 (alike_pairSteps hP h after join "" 0)
  | keyed style place asked =>
    cases place with
    | element =>
      apply alikeUnderKey_seq hP
      intro join scope key level
      exact hP.enclosed key (level + 1) (alike_pairSteps hP h after join key (level + 1))
    | slot =>
      apply alikeUnderKey_seq hP
      intro join scope key level
      cases hlayout : style.layout with
      | joined separator =>
        simp only [itemRole, hlayout] at h
        obtain ⟨texts, htexts⟩ := exists_renderAll h before after
        refine hP.of_eq [.write key (String.intercalate separator texts)] fun i => ?_
        simp [valueSteps, hlayout, joinElements, htexts i]
      | brackets | numbered | indexed | repeated =>
        simp only [itemRole, hlayout] at h
        simp only [valueSteps, hlayout]
        exact alike_elementSteps hP h before after join key level 0
  | paired =>
    obtain ⟨texts, htexts⟩ := exists_renderAll h before after
    exact {
      isContainer := ⟨false, fun _ => rfl⟩
      text := ⟨String.intercalate "," texts, fun i => by rw [Value.render, htexts i]⟩
      inPlace := fun _ _ _ => hP.const [] }
  | rendered options =>
    obtain ⟨texts, htexts⟩ := exists_renderAll h before after
    exact ⟨String.intercalate "," texts, fun i => by rw [Value.render, htexts i]⟩
  | unread => trivial

/-- The steps of the entries are all that counts about a map which is not empty. -/
theorem alike_map (hP : Framed P) {role : Role} {before after : List (Value × Value)}
    {g : ι → Value × Value}
    (hread : ∀ style, (entryRole role = .keyed style .slot true) → ∀ join scope level,
      P fun i => entrySteps join style scope level (before ++ g i :: after)) :
    role.Alike P fun i => .map (before ++ g i :: after) := by
  cases role with
  | root =>
    intro join
    exact hP.enclosed "" 0 (hread {} rfl join "" 0)
  | keyed style place asked =>
    exact {
      isStruct := ⟨false, fun _ => rfl⟩
      isEmpty := fun _ => ⟨false, fun i => by simp [Value.isEmpty, Value.isZero]⟩
      steps := fun join scope key level =>
        hP.enclosed scope (level + 1) (hread style rfl join scope (level + 1))
      inPlace := fun hstruct _ _ _ => hP.of_eq [] fun i => absurd (hstruct i) Bool.false_ne_true }
  | paired =>
    exact {
      isContainer := ⟨true, fun _ => rfl⟩
      text := ⟨"", fun _ => rfl⟩
      inPlace := fun join scope level => hP.enclosed scope level (hread {} rfl join scope level) }
  | rendered options => exact ⟨"", fun _ => rfl⟩
  | unread => trivial

theorem alike_entry (hP : Framed P) {role : Role} (h : (entryRole role).Alike P f)
    (before : List (Value × Value)) (key : Value) (after : List (Value × Value)) :
    role.Alike P fun i => .map (before ++ (key, f i) :: after) := by
  apply alike_map hP
  intro style hrole join scope level
  rw [hrole] at h
  exact alike_entrySteps hP h before key after join scope level

theorem alike_name (hP : Framed P) {role : Role} (h : (nameRole role).Alike P f)
    (before : List (Value × Value)) (value : Value) (after : List (Value × Value)) :
    role.Alike P fun i => .map (before ++ (f i, value) :: after) := by
  apply alike_map hP
  intro style hrole join scope level
  have htext : ∃ text, ∀ i, (f i).render {} = text := by
    cases role with
    | root | keyed _ _ _ | paired => exact h
    | rendered _ | unread => cases hrole
  obtain ⟨steps, hsteps⟩ := exists_entrySteps_name htext before value after join style scope level
  exact hP.of_eq steps hsteps

theorem alike_field (hP : Framed P) {role : Role} {field : Field}
    (h : (fieldRole field role).Alike P f) (before after : List (Field × Value)) :
    role.Alike P fun i => .struct (before ++ (field, f i) :: after) := by
  cases role with
  | root =>
    intro join
    exact hP.enclosed "" 0 (alike_structSteps hP h before after join "" 0)
  | keyed style place asked =>
    exact {
      isStruct := ⟨true, fun _ => rfl⟩
      isEmpty := fun _ => ⟨false, fun _ => rfl⟩
      steps := fun join scope key level =>
        hP.enclosed scope (level + 1) (alike_structSteps hP h before after join scope (level + 1))
      inPlace := fun _ join scope level =>
        hP.enclosed scope level (alike_structSteps hP h before after join scope level) }
  | paired =>
    exact {
      isContainer := ⟨true, fun _ => rfl⟩
      text := ⟨"", fun _ => rfl⟩
      inPlace := fun join scope level =>
        hP.enclosed scope level (alike_structSteps hP h before after join scope level) }
  | rendered options => exact ⟨"", fun _ => rfl⟩
  | unread => trivial

theorem alike_pointer {role : Role} {kind : Pointer} (h : (pointerRole kind role).Alike P f) :
    role.Alike P fun i => .pointer kind (f i) := by
  cases role with
  | keyed style place asked =>
    exact {
      isStruct := h.isStruct
      isEmpty := fun hasked => by
        cases kind with
        | reference => exact h.isEmpty (by rw [hasked]; rfl)
        | present | boxed | shared => exact ⟨false, fun _ => rfl⟩
      steps := h.steps
      inPlace := h.inPlace }
  | paired => exact { isContainer := h.isContainer, text := h.text, inPlace := h.inPlace }
  | root | rendered _ | unread => exact h

end Layers

/-! ## All layers -/

/-- **Values that are alike in a role are alike wherever they have this role.** By induction on the
layers, from the outside in. -/
theorem alike_fill {P : (ι → List Step) → Prop} (hP : Framed P) {f : ι → Value} (c : Context)
    {role : Role} (h : (c.roleIn role).Alike P f) : role.Alike P fun i => c.fill (f i) := by
  induction c generalizing role with
  | nil => exact h
  | cons frame inner ih =>
    have hinner := ih h
    cases frame with
    | item before after => exact alike_item hP hinner after
    | name before value after => exact alike_name hP hinner before value after
    | entry before key after => exact alike_entry hP hinner before key after
    | field before declared after => exact alike_field hP hinner before after
    | pointer kind => exact alike_pointer hinner

end Encoding

open Encoding

/-- Values that are alike in their role are encoded alike. -/
theorem Value.Context.encodeInto_fill {ι : Type} {f : ι → Value} (c : Context)
    (h : c.role.Alike Constant f) (i j : ι) (config : Config) (p : Params) :
    (c.fill (f i)).encodeInto config p = (c.fill (f j)).encodeInto config p := by
  have hsteps : rootSteps config.scopeJoin (c.fill (f i))
      = rootSteps config.scopeJoin (c.fill (f j)) :=
    alike_fill framed_constant c h config.scopeJoin i j
  rw [Value.encodeInto_eq, Value.encodeInto_eq, hsteps]

end UrlQuery
