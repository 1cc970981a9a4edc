import Mathlib.Logic.Relation
import UrlQuery.Proofs.Encoding.Context
import UrlQuery.Proofs.Text.Utf8

/-!
# Values in place of each other

Two values are indistinct if they are the same in all that a walk reads of a value, but for whether
they are empty. Wherever this is not asked, or they are equal in it, one can stand for the other
(`Value.Context.encodeInto_congr`).

* A value behind pointers is indistinct from the value. A pointer that is no reference hides that
  the value is empty, so pointers can be put around a value anywhere, if it is not empty where this
  is asked; references can be put around it in any case (`Value.encodeInto_behind`).
* Text is indistinct from the bytes of its UTF-8 encoding, and as empty, so they can be exchanged
  anywhere (`Value.encodeInto_bytes`).
-/

namespace UrlQuery

open Encoding

namespace Value

/-! ## Indistinct values -/

/-- A walk reads the same of both, unless it asks whether they are empty. -/
structure Indistinct (x y : Value) : Prop where
  root (join : ScopeJoin) : rootSteps join x = rootSteps join y
  steps (join : ScopeJoin) (style : Style) (place : Place) (scope key : String) (level : Nat) :
    valueSteps join style place scope key level x = valueSteps join style place scope key level y
  inPlace (join : ScopeJoin) (scope : String) (level : Nat) :
    inPlaceSteps join scope level x = inPlaceSteps join scope level y
  text (options : RenderOptions) : x.render options = y.render options
  isStruct : x.isStruct = y.isStruct
  isContainer : x.isContainer = y.isContainer

theorem constant_of_eq {steps : Bool → List Step} (h : steps false = steps true) :
    Constant steps := by
  rintro (_ | _) (_ | _)
  · rfl
  · exact h
  · exact h.symm
  · rfl

theorem Indistinct.alike {x y : Value} (h : x.Indistinct y) {role : Role}
    (hempty : role.asksEmpty = true → x.isEmpty = y.isEmpty) :
    role.Alike Constant fun second : Bool => if second then y else x := by
  cases role with
  | root => exact fun join => constant_of_eq (h.root join)
  | keyed style place asked =>
    exact {
      isStruct := ⟨x.isStruct, Bool.forall_bool.2 ⟨rfl, h.isStruct.symm⟩⟩
      isEmpty := fun hasked => ⟨x.isEmpty, Bool.forall_bool.2 ⟨rfl, (hempty hasked).symm⟩⟩
      steps := fun join scope key level =>
        constant_of_eq (h.steps join style place scope key level)
      inPlace := fun _ join scope level => constant_of_eq (h.inPlace join scope level) }
  | paired =>
    exact {
      isContainer := ⟨x.isContainer, Bool.forall_bool.2 ⟨rfl, h.isContainer.symm⟩⟩
      text := ⟨x.render {}, Bool.forall_bool.2 ⟨rfl, (h.text {}).symm⟩⟩
      inPlace := fun join scope level => constant_of_eq (h.inPlace join scope level) }
  | rendered options => exact ⟨x.render options, Bool.forall_bool.2 ⟨rfl, (h.text options).symm⟩⟩
  | unread => trivial

/-- Indistinct values are encoded alike, wherever they are not told apart by being empty. -/
theorem Context.encodeInto_congr (c : Context) {x y : Value} (h : x.Indistinct y)
    (hempty : c.role.asksEmpty = true → x.isEmpty = y.isEmpty) (config : Config) (p : Params) :
    (c.fill x).encodeInto config p = (c.fill y).encodeInto config p :=
  c.encodeInto_fill (h.alike hempty) false true config p

/-! ## Pointers -/

/-- The value behind pointers, the outermost first. -/
def behind (kinds : List Pointer) (x : Value) : Value :=
  kinds.foldr pointer x

theorem indistinct_pointer (kind : Pointer) (x : Value) : (pointer kind x).Indistinct x where
  root _ := rfl
  steps _ _ _ _ _ _ := rfl
  inPlace _ _ _ := rfl
  text _ := rfl
  isStruct := rfl
  isContainer := rfl

theorem isEmpty_behind {x : Value} (h : x.isEmpty = false) :
    ∀ kinds : List Pointer, (x.behind kinds).isEmpty = false
  | [] => h
  | .reference :: kinds => isEmpty_behind h kinds
  | .present :: _ | .boxed :: _ | .shared :: _ => rfl

/-- One pointer more around a value that stands behind pointers. -/
theorem isEmpty_pointer_behind {kind : Pointer} {kinds : List Pointer} {x : Value}
    (h : x.isEmpty = false ∨ ∀ k ∈ kind :: kinds, k = .reference) :
    (pointer kind (x.behind kinds)).isEmpty = (x.behind kinds).isEmpty := by
  rcases h with hempty | hreference
  · rw [isEmpty_behind hempty kinds]
    exact isEmpty_behind hempty (kind :: kinds)
  · rw [hreference kind List.mem_cons_self, isEmpty]

/-! ## Bytes -/

theorem isEmpty_encode (s : String) : (Utf8.encode s).isEmpty = s.isEmpty := by
  cases hs : (Utf8.encode s).isEmpty with
  | true =>
    have hdecode := Utf8.decode_encode s
    rw [List.isEmpty_iff.1 hs] at hdecode
    rw [← hdecode]
    rfl
  | false =>
    symm
    rw [String.isEmpty_eq_false_iff]
    rintro rfl
    cases hs

theorem indistinct_bytes (s : String) : (bytes (Utf8.encode s)).Indistinct (text s) where
  root _ := rfl
  steps _ _ _ _ _ _ := by
    simp only [valueSteps, render, Utf8.decode_encode]
  inPlace _ _ _ := rfl
  text _ := Utf8.decode_encode s
  isStruct := rfl
  isContainer := rfl

/-- The second value is the first with the bytes of a text in its place. -/
def TextAsBytes (v w : Value) : Prop :=
  ∃ (c : Context) (s : String), v = c.fill (text s) ∧ w = c.fill (bytes (Utf8.encode s))

end Value

/--
**Pointers around a value are not seen.** Any number of them can be put around the value in any
place, if it is not empty where empty values are left out, or if all are references.
-/
theorem Value.encodeInto_behind (c : Context) (x : Value) {kinds : List Pointer}
    (h : c.role.asksEmpty = true → x.isEmpty = false ∨ ∀ kind ∈ kinds, kind = .reference)
    (config : Config) (p : Params) :
    (c.fill (x.behind kinds)).encodeInto config p = (c.fill x).encodeInto config p := by
  induction kinds with
  | nil => rfl
  | cons kind kinds ih =>
    have hinner : c.role.asksEmpty = true → x.isEmpty = false ∨ ∀ k ∈ kinds, k = .reference := by
      intro hasks
      rcases h hasks with hempty | hreference
      · exact .inl hempty
      · exact .inr fun k hk => hreference k (List.mem_cons_of_mem kind hk)
    have hpointer : (c.fill (.pointer kind (x.behind kinds))).encodeInto config p
        = (c.fill (x.behind kinds)).encodeInto config p :=
      c.encodeInto_congr (indistinct_pointer kind (x.behind kinds))
        (fun hasks => isEmpty_pointer_behind (h hasks)) config p
    exact hpointer.trans (ih hinner)

/-- Pointers around the value of an entry, where empty ones are left out, and a promoted one. -/
theorem Value.encodeInto_behind_promoted :
    let shown : Field := { name := "m", tag := ",inline" }
    let base : Field := { name := "base", embedded := true }
    let entry : Context := [.field [({ name := "a" }, .text "1")] shown [],
      .entry [] (.text "k") [(.text "e", .pointer .reference (.text ""))]]
    let promoted : Context := [.field [] base [({ name := "b" }, .bool true)]]
    let kinds : List Pointer := [.present, .reference, .boxed]
    let items := Value.seq [.int 0, .text ""]
    let inner := Value.struct [({ name := "c" }, .absent none)]
    entry.role.asksEmpty = true ∧ items.isEmpty = false ∧ promoted.role.asksEmpty = false ∧
      (entry.fill (items.behind kinds)).encodeInto {} Params.empty
        = (.ok (), Params.ofPairs [("a", "1"), ("k", "0"), ("k", "")]) ∧
      (promoted.fill (inner.behind kinds)).encodeInto {} Params.empty
        = (.ok (), Params.ofPairs [("b", "true"), ("c", "")]) := by
  intro shown base entry promoted kinds items inner
  have hpromoted : promoted.role.asksEmpty = false := by decide
  refine ⟨by decide, rfl, hpromoted, ?_, ?_⟩
  · rw [Value.encodeInto_behind entry items fun _ => .inl rfl]
    simp only [entry, shown, items]
    rfl
  · rw [Value.encodeInto_behind promoted inner fun hasks => by rw [hpromoted] at hasks; cases hasks]
    simp only [promoted, base, inner]
    rfl

/-- **Text and the bytes of its UTF-8 encoding are encoded alike**, in any number of places. -/
theorem Value.encodeInto_bytes {v w : Value} (h : Relation.EqvGen TextAsBytes v w)
    (config : Config) (p : Params) : w.encodeInto config p = v.encodeInto config p := by
  induction h with
  | rel v w h =>
    obtain ⟨c, s, rfl, rfl⟩ := h
    exact c.encodeInto_congr (indistinct_bytes s) (fun _ => isEmpty_encode s) config p
  | refl v => rfl
  | symm v w _ ih => exact ih.symm
  | trans u v w _ _ hfirst hsecond => exact hsecond.trans hfirst

/-- Bytes in place of the key of an entry and of an element below it. -/
theorem Value.encodeInto_bytes_twice :
    let v := Value.map [(.text "é", .seq [.text "a", .text "ü"]), (.text "none", .text "")]
    let w := Value.map [(.bytes [0xC3, 0xA9], .seq [.text "a", .bytes [0xC3, 0xBC]]),
      (.text "none", .text "")]
    Relation.EqvGen TextAsBytes v w ∧ w.encodeInto {} Params.empty = v.encodeInto {} Params.empty ∧
      w.encodeInto {} Params.empty = (.ok (), Params.ofPairs [("é", "a"), ("é", "ü")]) := by
  intro v w
  let none : Value × Value := (.text "none", .text "")
  let between := Value.map [(.bytes [0xC3, 0xA9], .seq [.text "a", .text "ü"]), none]
  have hkey : TextAsBytes v between :=
    ⟨[.name [] (.seq [.text "a", .text "ü"]) [none]], "é", rfl, rfl⟩
  have helement : TextAsBytes between w :=
    ⟨[.entry [] (.bytes [0xC3, 0xA9]) [none], .item [.text "a"] []], "ü", rfl, rfl⟩
  have h : Relation.EqvGen TextAsBytes v w := .trans _ _ _ (.rel _ _ hkey) (.rel _ _ helement)
  have hv : v.encodeInto {} Params.empty = (.ok (), Params.ofPairs [("é", "a"), ("é", "ü")]) := by
    rfl
  have hw := Value.encodeInto_bytes h {} Params.empty
  exact ⟨h, hw, hw.trans hv⟩

end UrlQuery
