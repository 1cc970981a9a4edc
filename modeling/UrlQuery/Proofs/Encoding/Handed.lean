import UrlQuery.Proofs.Encoding.Context

/-!
# Encoders where text would be written

A value that encodes itself, and an absent value with an encoder, have their encoder run where it
would be their turn to be written: in a field, in an entry of a map, or as an element of a sequence
that is laid out and not joined. Text in the same place is written there.

Both are one step under one key. Where a place is reached by the walk at all, it is reached at one
point, and the key there does not depend on what stands in the place (`atOnePoint_rootSteps`). So an
encoder runs once, when text would be written, and is handed the key that it would be written under;
and an encoder that adds one text under its key is as good as the text
(`Value.encodeInto_handed`).
-/

namespace UrlQuery

/-- The encoder that adds one text under the key it is handed. -/
def CustomEncoder.adding (text : String) : CustomEncoder :=
  ⟨fun key p => (p.add key text, none)⟩

/-- What is done under a key with a text, or with a value in whose place an encoder runs. -/
def Value.step? : Value → Option (String → Step)
  | text s => some (.write · s)
  | custom encoder _ => some (.custom encoder)
  | absent (some encoder) => some (.custom encoder)
  | _ => none

/-- A sequence is laid out under its key and not joined, if it is read at all. -/
def Encoding.Role.laysOut : Role → Bool
  | keyed style .slot _ =>
    match style.layout with
    | .joined _ => false
    | _ => true
  | unread => true
  | root | keyed _ .element _ | paired | rendered _ => false

/--
What stands in the place has a key of its own: it is the value of a field or of an entry, or an
element of a sequence that is laid out, or stands behind pointers in such a place.
-/
inductive Value.Context.HasKey : Context → Prop where
  | field (outer : Context) (before : List (Field × Value)) (declared : Field)
    (after : List (Field × Value)) : HasKey (outer ++ [.field before declared after])
  | entry (outer : Context) (before : List (Value × Value)) (key : Value)
    (after : List (Value × Value)) : HasKey (outer ++ [.entry before key after])
  | item {outer : Context} (h : outer.role.laysOut = true) (before after : List Value) :
    HasKey (outer ++ [.item before after])
  | pointer {outer : Context} (h : HasKey outer) (kind : Pointer) :
    HasKey (outer ++ [.pointer kind])

/-- The value is not left out in the place for being empty. -/
def Value.Context.Keeps (c : Context) (x : Value) : Prop :=
  c.role.asksEmpty = true → x.isEmpty = false

namespace Encoding

open Value (Context)

variable {ι : Type}

/-! ## Places with a key -/

theorem isKeyed_fieldRole (field : Field) (role : Role) :
    (fieldRole field role).isKeyed = true := by
  cases role with
  | root | keyed _ _ _ | paired =>
    rw [fieldRole]
    split <;> rfl
  | rendered _ | unread => rfl

theorem isKeyed_entryRole (role : Role) : (entryRole role).isKeyed = true := by
  cases role <;> rfl

theorem isKeyed_itemRole {role : Role} (h : role.laysOut = true) (before : List Value) :
    (itemRole before role).isKeyed = true := by
  cases role with
  | keyed style place asked =>
    cases place with
    | slot =>
      cases hlayout : style.layout with
      | joined separator => simp [Role.laysOut, hlayout] at h
      | brackets | numbered | indexed | repeated => simp [itemRole, hlayout, Role.isKeyed]
    | element => cases h
  | unread => rfl
  | root | paired | rendered _ => cases h

theorem isKeyed_pointerRole (kind : Pointer) (role : Role) :
    (pointerRole kind role).isKeyed = role.isKeyed := by
  cases role <;> rfl

theorem isKeyed_of_hasKey {c : Context} (h : c.HasKey) : c.role.isKeyed = true := by
  induction h with
  | field outer before declared after =>
    rw [Context.role_concat]
    exact isKeyed_fieldRole declared outer.role
  | entry outer before key after =>
    rw [Context.role_concat]
    exact isKeyed_entryRole outer.role
  | item hlays before after =>
    rw [Context.role_concat]
    exact isKeyed_itemRole hlays before
  | @pointer outer _ kind ih =>
    rw [Context.role_concat]
    exact (isKeyed_pointerRole kind outer.role).trans ih

/-! ## One step at one point -/

/-- Each has a step of its own, all at one point and under one key, or they are all the same. -/
def AtOnePoint (step : ι → String → Step) (steps : ι → List Step) : Prop :=
  (∃ all, ∀ i, steps i = all) ∨ ∃ before key after, ∀ i, steps i = before ++ step i key :: after

theorem framed_atOnePoint (step : ι → String → Step) : Framed (AtOnePoint step) where
  const steps := .inl ⟨steps, fun _ => rfl⟩
  around before after steps h := by
    rcases h with ⟨all, hall⟩ | ⟨first, key, last, hstep⟩
    · refine .inl ⟨before ++ all ++ after, fun i => ?_⟩
      show before ++ steps i ++ after = before ++ all ++ after
      rw [hall i]
    · refine .inr ⟨before ++ first, key, last ++ after, fun i => ?_⟩
      show before ++ steps i ++ after = before ++ first ++ step i key :: (last ++ after)
      rw [hstep i, ← List.append_assoc, List.append_assoc, List.cons_append]

theorem cases_of_step? {step : String → Step} :
    ∀ {x : Value}, x.step? = some step →
      (∃ s, x = .text s ∧ step = (.write · s)) ∨
        ∃ encoder, step = .custom encoder ∧
          ((∃ empty, x = .custom encoder empty) ∨ x = .absent (some encoder))
  | .text s, h => .inl ⟨s, rfl, (Option.some.inj h).symm⟩
  | .custom encoder empty, h => .inr ⟨encoder, (Option.some.inj h).symm, .inl ⟨empty, rfl⟩⟩
  | .absent (some encoder), h => .inr ⟨encoder, (Option.some.inj h).symm, .inr rfl⟩
  | .absent none, h | .bool _, h | .int _, h | .uint _, h | .single _, h | .double _, h
  | .char _, h | .bytes _, h | .time _, h | .seq _, h | .map _, h | .struct _, h
  | .pointer _ _, h => by cases h

theorem valueSteps_of_step? (join : ScopeJoin) (style : Style) (place : Place) (scope key : String)
    (level : Nat) {x : Value} {step : String → Step} (h : x.step? = some step) :
    valueSteps join style place scope key level x = [step key] := by
  rcases cases_of_step? h with ⟨s, rfl, rfl⟩ | ⟨encoder, rfl, ⟨empty, rfl⟩ | rfl⟩
  · rw [valueSteps_of_isScalar join style place scope key level rfl, Value.render]
  · rw [valueSteps]
  · rw [valueSteps]

theorem isStruct_of_step? {x : Value} {step : String → Step} (h : x.step? = some step) :
    x.isStruct = false := by
  rcases cases_of_step? h with ⟨s, rfl, -⟩ | ⟨encoder, -, ⟨empty, rfl⟩ | rfl⟩
  · rfl
  · rfl
  · rfl

/-- Wherever they have a key of their own, such values are alike in that each is one step. -/
theorem alike_of_step? {role : Role} (hkeyed : role.isKeyed = true) {f : ι → Value}
    {step : ι → String → Step} (hstep : ∀ i, (f i).step? = some (step i))
    (hempty : role.asksEmpty = true → ∀ i, (f i).isEmpty = false) :
    role.Alike (AtOnePoint step) f := by
  cases role with
  | keyed style place asked =>
    exact {
      isStruct := ⟨false, fun i => isStruct_of_step? (hstep i)⟩
      isEmpty := fun hasked => ⟨false, hempty hasked⟩
      steps := fun join scope key level => .inr ⟨[], key, [], fun i =>
        valueSteps_of_step? join style place scope key level (hstep i)⟩
      inPlace := fun hstruct _ _ _ => .inl ⟨[], fun i =>
        absurd (hstruct i) (by rw [isStruct_of_step? (hstep i)]; exact Bool.false_ne_true)⟩ }
  | unread => trivial
  | root | paired | rendered _ => cases hkeyed

/-- **A place with a key of its own is reached at one point and under one key**, if it is reached,
whatever stands there. -/
theorem atOnePoint_rootSteps {c : Context} (hkeyed : c.role.isKeyed = true) (join : ScopeJoin) :
    (∃ steps, ∀ x step, x.step? = some step → c.Keeps x → rootSteps join (c.fill x) = steps) ∨
      ∃ before key after, ∀ x step, x.step? = some step → c.Keeps x →
        rootSteps join (c.fill x) = before ++ step key :: after := by
  let Kept := { i : Value × (String → Step) // i.1.step? = some i.2 ∧ c.Keeps i.1 }
  have halike : c.role.Alike (AtOnePoint fun i : Kept => i.1.2) fun i => i.1.1 :=
    alike_of_step? hkeyed (fun i => i.2.1) fun hasked i => i.2.2 hasked
  have hsteps := alike_fill (framed_atOnePoint _) c halike join
  rcases hsteps with ⟨steps, hall⟩ | ⟨before, key, after, hstep⟩
  · exact .inl ⟨steps, fun x step hx hkept => hall ⟨(x, step), hx, hkept⟩⟩
  · exact .inr ⟨before, key, after, fun x step hx hkept => hstep ⟨(x, step), hx, hkept⟩⟩

/-- An encoder that adds one text does what writing the text does. -/
theorem outcome_adding (limit : Nat) (text key : String) (after : List Step) :
    outcome limit (.custom (.adding text) key :: after)
      = outcome limit (.write key text :: after) := by
  funext p
  rw [outcome_cons, outcome_cons limit (.write key text), outcome_custom, outcome_write]
  rfl

end Encoding

open Encoding

/--
**An encoder runs where text would be written, and is handed the key of the text.** This is said of
a place that has a key of its own, and of values that are not left out there for being empty.

* The walk reaches the place at one point and under one key, or not at all, whichever text stands
  there and whichever value with an encoder.
* If the encoder adds a text under its key, the encoding is that with the text in its place: the
  result is the same, and so are the parameters that are left.
-/
theorem Value.encodeInto_handed {c : Context} (hkey : c.HasKey) :
    (∀ join,
      (∃ steps, ∀ x step, x.step? = some step → c.Keeps x → rootSteps join (c.fill x) = steps) ∨
        ∃ before key after, ∀ x step, x.step? = some step → c.Keeps x →
          rootSteps join (c.fill x) = before ++ step key :: after) ∧
      ∀ x text, x.step? = some (.custom (.adding text)) → c.Keeps x → c.Keeps (.text text) →
        ∀ config p, (c.fill x).encodeInto config p = (c.fill (.text text)).encodeInto config p := by
  have hkeyed := isKeyed_of_hasKey hkey
  refine ⟨atOnePoint_rootSteps hkeyed, fun x text hx hkept htext config p => ?_⟩
  rw [Value.encodeInto_eq, Value.encodeInto_eq]
  rcases atOnePoint_rootSteps hkeyed config.scopeJoin with
    ⟨steps, hall⟩ | ⟨before, key, after, hstep⟩
  · rw [hall x _ hx hkept, hall (.text text) _ rfl htext]
  · rw [hstep x _ hx hkept, hstep (.text text) _ rfl htext, outcome_append, outcome_append,
      outcome_adding]

/-- An absent value with an encoder among the elements of a sequence. -/
theorem Value.encodeInto_handed_absent :
    let list : Field := { name := "list", tag := ",indexed" }
    let outer : Context := [.field [({ name := "a" }, .text "1")] list []]
    let c : Context := outer ++ [.item [.map [(.text "k", .text "v")]] [.text "z"]]
    let x := Value.absent (some (.adding "s"))
    c.HasKey ∧ x.step? = some (.custom (.adding "s")) ∧ c.Keeps x ∧ c.Keeps (.text "s") ∧
      (c.fill x).encodeInto {} Params.empty = (c.fill (.text "s")).encodeInto {} Params.empty ∧
      (c.fill x).encodeInto {} Params.empty = (.ok (), Params.ofPairs
        [("a", "1"), ("list[0][k]", "v"), ("list[1]", "s"), ("list[2]", "z")]) := by
  intro list outer c x
  have hkey : c.HasKey := .item (by decide) _ _
  have hkeeps : ∀ y, c.Keeps y := fun y hasked => by
    have hrole : c.role = .keyed { layout := .indexed } .element false := by decide
    rw [hrole] at hasked
    cases hasked
  have htext : (c.fill (.text "s")).encodeInto {} Params.empty = (.ok (), Params.ofPairs
      [("a", "1"), ("list[0][k]", "v"), ("list[1]", "s"), ("list[2]", "z")]) := by
    simp only [c, outer, list]
    rfl
  have h := (Value.encodeInto_handed hkey).2 x "s" rfl (hkeeps x) (hkeeps _) {} Params.empty
  exact ⟨hkey, rfl, hkeeps x, hkeeps _, h, h.trans htext⟩

end UrlQuery
