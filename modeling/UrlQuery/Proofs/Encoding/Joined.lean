import UrlQuery.Proofs.Encoding.Layout
import UrlQuery.Proofs.Field.Options

/-!
# Sequences that are joined

Where the layout of a field joins, a sequence is one value: the texts of its elements with a
separator between them. If the separator is one character, and no text has it, the texts are read
back by splitting there (`Value.encode_joined`).

Which separator that is, a field says in one of three ways, and the first that says something wins:
its annotation, the option `del` of its tag, or a flag for a join style (`Field.SeparatedBy`). Of
several options that mean the same thing, the first in the tag counts.
-/

namespace UrlQuery

/-! ## The separator of a field -/

theorem nonEmpty?_eq_some_iff {text : Option String} {s : String} :
    nonEmpty? text = some s ↔ text = some s ∧ s ≠ "" := by
  simp [nonEmpty?, Option.filter_eq_some_iff]

theorem nonEmpty?_eq_none_iff {text : Option String} :
    nonEmpty? text = none ↔ ∀ s, text = some s → s = "" := by
  simp [nonEmpty?, Option.filter_eq_none_iff]

/-- The options in the tag of the field. -/
def Field.options (field : Field) : TagOptions :=
  (Tag.parse field.tag).options

/--
What the field puts between the elements of a sequence: its annotation, else the first option `del`
of its tag, else what the first flag for a join style stands for. An empty text says nothing.
-/
inductive Field.SeparatedBy (field : Field) : String → Prop where
  | annotated {separator : String} (h : field.delimiter = some separator)
    (hne : separator ≠ "") : field.SeparatedBy separator
  | keyed {separator : String} (hbare : ∀ s, field.delimiter = some s → s = "")
    (h : field.options.IsFirst (· == "del") ("del", separator)) (hne : separator ≠ "") :
    field.SeparatedBy separator
  | flagged {flag text separator : String} {style : JoinStyle}
    (hbare : ∀ s, field.delimiter = some s → s = "")
    (hkeyless : ∀ s, field.options.IsFirst (· == "del") ("del", s) → s = "")
    (h : field.options.IsFirst TagOptions.isJoinFlag (flag, text))
    (hstyle : JoinStyle.ofFlag? flag = some style)
    (hseparator : style.separator? = some separator) : field.SeparatedBy separator

theorem Field.seq_eq (field : Field) :
    field.rules.seq
      = match field.delimiterOf field.options with
        | some separator => .joined separator
        | none => field.options.seqLayout := rfl

/-- **A field joins sequences just by the separator that it declares.** -/
theorem Field.seq_eq_joined_iff {field : Field} {separator : String} :
    field.rules.seq = .joined separator ↔ field.SeparatedBy separator := by
  rw [seq_eq, delimiterOf]
  constructor
  · intro h
    cases hannotated : nonEmpty? field.delimiter with
    | some s =>
      rw [hannotated] at h
      obtain rfl : s = separator := by simpa using h
      obtain ⟨hdelimiter, hne⟩ := nonEmpty?_eq_some_iff.1 hannotated
      exact .annotated hdelimiter hne
    | none =>
      have hbare := nonEmpty?_eq_none_iff.1 hannotated
      cases hkeyed : nonEmpty? (field.options.get? "del") with
      | some s =>
        rw [hannotated, hkeyed] at h
        obtain rfl : s = separator := by simpa using h
        obtain ⟨hget, hne⟩ := nonEmpty?_eq_some_iff.1 hkeyed
        exact .keyed hbare (TagOptions.get?_eq_some_iff.1 hget) hne
      | none =>
        rw [hannotated, hkeyed] at h
        obtain ⟨style, hstyle, hseparator⟩ := TagOptions.seqLayout_eq_joined_iff.1 h
        obtain ⟨flag, text, hfirst, hflag⟩ := TagOptions.joinStyle?_eq_some_iff.1 hstyle
        exact .flagged hbare
          (fun s hs => nonEmpty?_eq_none_iff.1 hkeyed s (TagOptions.get?_eq_some_iff.2 hs))
          hfirst hflag hseparator
  · intro h
    cases h with
    | annotated h hne => rw [nonEmpty?_eq_some_iff.2 ⟨h, hne⟩]; rfl
    | keyed hbare h hne =>
      rw [nonEmpty?_eq_none_iff.2 hbare,
        nonEmpty?_eq_some_iff.2 ⟨TagOptions.get?_eq_some_iff.2 h, hne⟩]
      rfl
    | flagged hbare hkeyless h hstyle hseparator =>
      rw [nonEmpty?_eq_none_iff.2 hbare, nonEmpty?_eq_none_iff.2 fun s hs =>
        hkeyless s (TagOptions.get?_eq_some_iff.1 hs)]
      exact TagOptions.seqLayout_eq_joined_iff.2
        ⟨_, TagOptions.joinStyle?_eq_some_iff.2 ⟨_, _, h, hstyle⟩, hseparator⟩

/-! ## Splitting -/

/-- The parts of a text between the places where a character stands. -/
def splitText (c : Char) (text : String) : List String :=
  (text.toList.splitOn c).map String.ofList

/-- Texts without the separator are the parts of what they are joined to. -/
theorem splitText_intercalate {c : Char} {texts : List String} (hne : texts ≠ [])
    (h : ∀ text ∈ texts, c ∉ text.toList) :
    splitText c (String.intercalate (String.singleton c) texts) = texts := by
  rw [splitText, String.toList_intercalate, String.toList_singleton,
    List.splitOn_intercalate c (List.forall_mem_map.2 h) (by simpa using hne), List.map_map]
  simp [Function.comp_def]

open Encoding

/--
**What is joined can be split.** A field joins sequences by a separator just if it declares that
one. Let it take part, declare a separator of one character, and hold a sequence that is not empty
and none of whose elements has that character in its text. Then the struct of this field makes one
value, under the key of the field, and split at that character it is the texts of all elements in
their order.
-/
theorem Value.encode_joined (config : Config) (field : Field) :
    (∀ separator, field.rules.seq = .joined separator ↔ field.SeparatedBy separator) ∧
    ∀ (value : Value) (items : List Value) (c : Char), field.rules.skipped = false →
      field.rules.seq = .joined (String.singleton c) → value.items? = some items → items ≠ [] →
      (∀ item ∈ items, c ∉ (item.render field.rules.render).toList) →
      ∃ p text, (Value.struct [(field, value)]).encode config = .ok p ∧
        p.entries = [(field.queryName, [text])] ∧
        splitText c text = items.map (·.render field.rules.render) := by
  refine ⟨fun _ => Field.seq_eq_joined_iff, ?_⟩
  intro value items c hskipped hseq hitems hne hfree
  refine ⟨Params.ofPairs [(field.queryName,
      joinElements field.rules.render (String.singleton c) items)], _,
    encode_eq_ok_iff.2 ?_, rfl, ?_⟩
  · have hempty : items.isEmpty = false := List.isEmpty_eq_false_iff.2 hne
    have hlayout : field.rules.style.layout = .joined (String.singleton c) := hseq
    rw [encodeInto_of_items? config hskipped hitems]
    simp only [valueSteps, hlayout, hempty, Bool.false_eq_true, if_false, outcome_write]
    rfl
  · rw [joinElements, renderAll_eq_map]
    exact splitText_intercalate (by simpa using hne) (List.forall_mem_map.2 hfree)

/-- Sequences in a sequence, which have commas of their own, joined by the first of two flags. -/
theorem Value.encode_joined_nested :
    let field : Field := { name := "key", tag := ",numbered,del,space:x,comma" }
    let items : List Value := [.seq [.int 1, .int 2], .text "", .seq [.bool true]]
    let value := Value.pointer .present (.seq items)
    field.rules.skipped = false ∧ field.rules.seq = .joined (String.singleton ' ') ∧
      value.items? = some items ∧ items ≠ [] ∧
      (∀ item ∈ items, ' ' ∉ (item.render field.rules.render).toList) ∧
      field.SeparatedBy " " ∧
      (∃ p text, (Value.struct [(field, value)]).encode {} = .ok p ∧
        p.entries = [(field.queryName, [text])] ∧
        splitText ' ' text = items.map (·.render field.rules.render)) ∧
      (Value.struct [(field, value)]).encode {} = .ok (Params.ofPairs [("key", "1,2  true")]) := by
  intro field items value
  have hskipped : field.rules.skipped = false := by decide
  have hseq : field.rules.seq = .joined (String.singleton ' ') := by decide
  have hfree : ∀ item ∈ items, ' ' ∉ (item.render field.rules.render).toList := by
    simp only [items, List.forall_mem_cons]
    decide
  have h := Value.encode_joined {} field
  refine ⟨hskipped, hseq, rfl, nofun, hfree, (h.1 " ").1 hseq,
    h.2 value items ' ' hskipped hseq rfl nofun hfree, ?_⟩
  simp only [field, items, value]
  rfl

end UrlQuery
