import Mathlib.Data.List.Induction
import UrlQuery.Proofs.Derive.Lexemes

/-!
# Attributes as collections of arguments

What the attributes of a field say is what their arguments say. In which attributes the arguments
stand does not count, and neither does their order (`FieldOptions.ofAttributes_collects`). But every
attribute must have a list of arguments, be it an empty one (`FieldOptions.ofAttributes_bare`).

An attribute is read as a whole before its arguments take effect, while a second tag, layout or
delimiter is noticed across all attributes. Where nothing is refused, both come to one run over all
arguments, each read on its own (`readLists_eq_ok_iff`). After every argument this run holds the
collection of those before it, as long as none of the three stood twice (`foldlM_apply_eq_ok_iff`).

The attributes of a struct are read in the same way, and of their rules the last counts
(`renameRule?_eq_ok_iff`).
-/

namespace UrlQuery.Derive

/-! ## Collections of arguments -/

/-- The arguments of all attributes about the encoding, in order. -/
def queryArguments (attributes : List Attribute) : List Argument :=
  (attributes.filter (·.isQuery)).flatMap (·.arguments)

/-- Every attribute about the encoding has a list of arguments. -/
def HasLists (attributes : List Attribute) : Prop :=
  ∀ a ∈ attributes, a.isQuery = true → a.HasList

/-- The arguments that a field takes. -/
inductive Argument.IsForField : Argument → Prop where
  | tag (text : String) : IsForField (.literal text)
  | layout (text : String) : IsForField (.assignment "layout" text)
  | del (text : String) : IsForField (.assignment "del" text)
  | flatten : IsForField (.word "flatten")
  | skip : IsForField (.word "skip")

/-- The text that an argument gives as the annotation of a slot. -/
def Slot.text? : Slot → Argument → Option String
  | tag, [.text text] => some text
  | layout, [.name name, .equals, .text text] => if name = "layout" then some text else none
  | del, [.name name, .equals, .text text] => if name = "del" then some text else none
  | _, _ => none

/-- The texts that arguments give as the annotation of a slot, in order. -/
def Slot.texts (slot : Slot) (arguments : List Argument) : List String :=
  arguments.filterMap slot.text?

/-- No annotation is given twice. -/
def AtMostOnce (arguments : List Argument) : Prop :=
  ∀ slot : Slot, (slot.texts arguments).length ≤ 1

/-- What arguments say that give no annotation twice. -/
def FieldOptions.collect (arguments : List Argument) : FieldOptions :=
  { tag := (Slot.tag.texts arguments).head?
    layout := (Slot.layout.texts arguments).head?
    del := (Slot.del.texts arguments).head?
    flatten := arguments.contains (.word "flatten")
    skip := arguments.contains (.word "skip") }

/-- One argument more may give one text more. -/
theorem Slot.texts_concat (slot : Slot) (arguments : List Argument) (argument : Argument) :
    slot.texts (arguments ++ [argument])
      = slot.texts arguments ++ (slot.text? argument).toList := by
  rw [texts, texts, List.filterMap_append]
  cases h : slot.text? argument <;> simp [h]

theorem AtMostOnce.of_concat {arguments : List Argument} {argument : Argument}
    (h : AtMostOnce (arguments ++ [argument])) : AtMostOnce arguments := by
  intro slot
  have hslot := h slot
  rw [slot.texts_concat, List.length_append] at hslot
  omega

theorem Slot.texts_perm (slot : Slot) {a b : List Argument} (h : a.Perm b) :
    (slot.texts a).Perm (slot.texts b) :=
  h.filterMap slot.text?

theorem AtMostOnce.perm {a b : List Argument} (hperm : a.Perm b) (h : AtMostOnce b) :
    AtMostOnce a := by
  intro slot
  rw [(slot.texts_perm hperm).length_eq]
  exact h slot

/-- Where no annotation is given twice, the order does not show. -/
theorem FieldOptions.collect_perm {a b : List Argument} (hperm : a.Perm b) (honce : AtMostOnce b) :
    collect a = collect b := by
  have htexts : ∀ slot : Slot, slot.texts a = slot.texts b := by
    intro slot
    have hslot := slot.texts_perm hperm
    match hb : slot.texts b, honce slot with
    | [], _ =>
      rw [hb] at hslot
      exact hslot.eq_nil
    | [text], _ =>
      rw [hb] at hslot
      exact hslot.eq_singleton
  simp only [collect, htexts, hperm.contains_eq]

/-! ## Reading arguments -/

theorem isForField_iff {argument : Argument} :
    argument.IsForField ↔ ∃ read : FieldArgument, argument = read.argument := by
  constructor
  · rintro (text | text | text | _ | _)
    · exact ⟨.annotate .tag text, rfl⟩
    · exact ⟨.annotate .layout text, rfl⟩
    · exact ⟨.annotate .del text, rfl⟩
    · exact ⟨.flatten, rfl⟩
    · exact ⟨.skip, rfl⟩
  · rintro ⟨⟨_ | _ | _, text⟩ | _ | _, rfl⟩
    · exact .tag text
    · exact .layout text
    · exact .del text
    · exact .flatten
    · exact .skip

theorem exists_read {arguments : List Argument} (h : ∀ argument ∈ arguments, argument.IsForField) :
    ∃ read : List FieldArgument, arguments = read.map FieldArgument.argument := by
  induction arguments with
  | nil => exact ⟨[], rfl⟩
  | cons argument rest ih =>
    obtain ⟨hargument, hrest⟩ := List.forall_mem_cons.1 h
    obtain ⟨first, rfl⟩ := isForField_iff.1 hargument
    obtain ⟨others, rfl⟩ := ih hrest
    exact ⟨first :: others, rfl⟩

/-! ## One run over all arguments -/

theorem queryArguments_cons_of_isQuery {a : Attribute} (h : a.isQuery = true)
    (rest : List Attribute) : queryArguments (a :: rest) = a.arguments ++ queryArguments rest := by
  rw [queryArguments, List.filter_cons_of_pos h, List.flatMap_cons, queryArguments]

theorem queryArguments_cons_of_not_isQuery {a : Attribute} (h : ¬ a.isQuery = true)
    (rest : List Attribute) : queryArguments (a :: rest) = queryArguments rest := by
  rw [queryArguments, List.filter_cons_of_neg h, queryArguments]

theorem hasLists_cons_of_isQuery {a : Attribute} (h : a.isQuery = true) {rest : List Attribute} :
    HasLists (a :: rest) ↔ a.HasList ∧ HasLists rest := by
  rw [HasLists, List.forall_mem_cons]
  exact and_congr_left fun _ => forall_prop_of_true h

theorem hasLists_cons_of_not_isQuery {a : Attribute} (h : ¬ a.isQuery = true)
    {rest : List Attribute} : HasLists (a :: rest) ↔ HasLists rest := by
  rw [HasLists, List.forall_mem_cons]
  exact and_iff_right fun hquery => absurd hquery h

/--
**The lists of all attributes are read as one list of all their arguments.** Let `reads` say what a
list of arguments makes of what stands already, one part of the list after the other.
-/
theorem readLists_eq_ok_iff {α : Type} {read : α → List Lexeme → Except DeriveError α}
    (reads : α → List Argument → α → Prop)
    (hread : ∀ {start lexemes result},
      read start lexemes = .ok result ↔ reads start (argumentsOf lexemes) result)
    (hnil : ∀ {start result}, reads start [] result ↔ start = result)
    (happend : ∀ {start result} (a b : List Argument),
      reads start (a ++ b) result ↔ ∃ between, reads start a between ∧ reads between b result)
    {attributes : List Attribute} :
    ∀ {start result : α}, readLists read start attributes = .ok result ↔
      HasLists attributes ∧ reads start (queryArguments attributes) result := by
  induction attributes with
  | nil =>
    intro start result
    rw [readLists, Except.ok.injEq]
    exact hnil.symm.trans (and_iff_right (List.forall_mem_nil _)).symm
  | cons a rest ih =>
    intro start result
    rw [readLists]
    by_cases hquery : a.isQuery = true
    · have hfirst : ∀ between, a.lexemes >>= read start = .ok between ↔
          a.HasList ∧ reads start a.arguments between := fun between =>
        Attribute.bind_lexemes_eq_ok_iff (reads start · between) fun _ => hread
      rw [if_pos hquery, queryArguments_cons_of_isQuery hquery, hasLists_cons_of_isQuery hquery,
        happend, bind_eq_ok_iff]
      -- The arguments of the first attribute lead to `between`, all others from there.
      constructor
      · rintro ⟨between, hbetween, hrest⟩
        obtain ⟨hlist, hbetween⟩ := (hfirst between).1 hbetween
        obtain ⟨hlists, hrest⟩ := ih.1 hrest
        exact ⟨⟨hlist, hlists⟩, between, hbetween, hrest⟩
      · rintro ⟨⟨hlist, hlists⟩, between, hbetween, hrest⟩
        exact ⟨between, (hfirst between).2 ⟨hlist, hbetween⟩, ih.2 ⟨hlists, hrest⟩⟩
    · rw [if_neg hquery, queryArguments_cons_of_not_isQuery hquery,
        hasLists_cons_of_not_isQuery hquery]
      exact ih

/-- **The attributes of a field take effect as all their arguments do, one after the other.** -/
theorem ofAttributes_eq_ok_iff_run {attributes : List Attribute} {options : FieldOptions} :
    FieldOptions.ofAttributes attributes = .ok options ↔
      HasLists attributes ∧
        ∃ read : List FieldArgument, queryArguments attributes = read.map FieldArgument.argument ∧
          read.foldlM FieldOptions.apply {} = .ok options := by
  refine readLists_eq_ok_iff
    (fun start arguments result => ∃ read : List FieldArgument,
      arguments = read.map FieldArgument.argument ∧
        read.foldlM FieldOptions.apply start = .ok result) ?_ ?_ ?_
  · intro start lexemes result
    rw [FieldOptions.addList, bind_eq_ok_iff]
    exact exists_congr fun read => and_congr_left fun _ => FieldArgument.readAll_eq_ok_iff
  · intro start result
    constructor
    · rintro ⟨read, hread, hrun⟩
      rw [List.map_eq_nil_iff.1 hread.symm] at hrun
      exact Except.ok.inj hrun
    · rintro rfl
      exact ⟨[], rfl, rfl⟩
  · intro start result a b
    constructor
    · rintro ⟨read, hread, hrun⟩
      obtain ⟨first, others, rfl, hfirst, hothers⟩ := List.map_eq_append_iff.1 hread.symm
      rw [List.foldlM_append] at hrun
      obtain ⟨between, hbetween, hrun⟩ := bind_eq_ok_iff.1 hrun
      exact ⟨between, ⟨first, hfirst.symm, hbetween⟩, others, hothers.symm, hrun⟩
    · rintro ⟨between, ⟨first, rfl, hbetween⟩, others, rfl, hrun⟩
      refine ⟨first ++ others, List.map_append.symm, ?_⟩
      rw [List.foldlM_append]
      exact bind_eq_ok_iff.2 ⟨between, hbetween, hrun⟩

/-- **Of the rules that the attributes of a struct set the last counts.** -/
theorem renameRule?_eq_ok_iff {attributes : List Attribute} {result : Option RenameRule} :
    renameRule? attributes = .ok result ↔
      HasLists attributes ∧
        ∃ rules : List RenameRule, queryArguments attributes = rules.map RenameRule.argument ∧
          result = rules.getLast? := by
  have hrun : renameRule? attributes = .ok result ↔
      HasLists attributes ∧
        ∃ rules : List RenameRule, queryArguments attributes = rules.map RenameRule.argument ∧
          result = rules.getLast?.or none := by
    refine readLists_eq_ok_iff
      (fun start arguments result => ∃ rules : List RenameRule,
        arguments = rules.map RenameRule.argument ∧ result = rules.getLast?.or start)
      readRules_eq_ok_iff ?_ ?_
    · intro start result
      constructor
      · rintro ⟨rules, hrules, rfl⟩
        rw [List.map_eq_nil_iff.1 hrules.symm]
        rfl
      · rintro rfl
        exact ⟨[], rfl, rfl⟩
    · intro start result a b
      constructor
      · rintro ⟨rules, hrules, rfl⟩
        obtain ⟨first, others, rfl, hfirst, hothers⟩ := List.map_eq_append_iff.1 hrules.symm
        refine ⟨_, ⟨first, hfirst.symm, rfl⟩, others, hothers.symm, ?_⟩
        rw [List.getLast?_append, Option.or_assoc]
      · rintro ⟨_, ⟨first, rfl, rfl⟩, others, rfl, rfl⟩
        refine ⟨first ++ others, List.map_append.symm, ?_⟩
        rw [List.getLast?_append, Option.or_assoc]
  rw [hrun]
  simp only [Option.or_none]

/-! ### One argument more -/

namespace FieldOptions

theorem get?_collect (arguments : List Argument) (slot : Slot) :
    (collect arguments).get? slot = (slot.texts arguments).head? := by
  cases slot <;> rfl

theorem get?_set (options : FieldOptions) (slot other : Slot) (text : String) :
    (options.set slot text).get? other
      = if other = slot then some text else options.get? other := by
  cases slot <;> cases other <;> rfl

theorem flatten_set (options : FieldOptions) (slot : Slot) (text : String) :
    (options.set slot text).flatten = options.flatten := by
  cases slot <;> rfl

theorem skip_set (options : FieldOptions) (slot : Slot) (text : String) :
    (options.set slot text).skip = options.skip := by
  cases slot <;> rfl

theorem eq_of_get? {a b : FieldOptions} (h : ∀ slot, a.get? slot = b.get? slot)
    (hflatten : a.flatten = b.flatten) (hskip : a.skip = b.skip) : a = b := by
  obtain ⟨tag, layout, del, flatten, skip⟩ := a
  obtain ⟨tag', layout', del', flatten', skip'⟩ := b
  obtain rfl : tag = tag' := h .tag
  obtain rfl : layout = layout' := h .layout
  obtain rfl : del = del' := h .del
  obtain rfl : flatten = flatten' := hflatten
  obtain rfl : skip = skip' := hskip
  rfl

end FieldOptions

theorem Slot.text?_argument (slot other : Slot) (text : String) :
    other.text? (slot.argument text) = if other = slot then some text else none := by
  cases slot <;> cases other <;> rfl

theorem Slot.text?_word (slot : Slot) (name : String) : slot.text? (.word name) = none := by
  cases slot <;> rfl

theorem contains_word_concat (arguments : List Argument) (slot : Slot) (text name : String) :
    (arguments ++ [slot.argument text]).contains (.word name)
      = arguments.contains (.word name) := by
  have hne : .word name ≠ slot.argument text := by
    cases slot <;> nofun
  simp [hne]

/-- The first annotation of a slot adds its text to the collection. -/
theorem set_collect {arguments : List Argument} {slot : Slot} (h : slot.texts arguments = [])
    (text : String) : (FieldOptions.collect arguments).set slot text
      = FieldOptions.collect (arguments ++ [slot.argument text]) := by
  apply FieldOptions.eq_of_get?
  · intro other
    rw [FieldOptions.get?_set, FieldOptions.get?_collect, FieldOptions.get?_collect,
      other.texts_concat, slot.text?_argument]
    by_cases hother : other = slot
    · simp [hother, h]
    · simp [hother]
  · rw [FieldOptions.flatten_set]
    exact (contains_word_concat arguments slot text "flatten").symm
  · rw [FieldOptions.skip_set]
    exact (contains_word_concat arguments slot text "skip").symm

/-- A word gives no text. -/
theorem texts_concat_word (arguments : List Argument) (slot : Slot) (name : String) :
    slot.texts (arguments ++ [.word name]) = slot.texts arguments := by
  rw [slot.texts_concat, slot.text?_word]
  exact List.append_nil _

theorem AtMostOnce.concat_word {arguments : List Argument} (h : AtMostOnce arguments)
    (name : String) : AtMostOnce (arguments ++ [.word name]) := by
  intro slot
  rw [texts_concat_word]
  exact h slot

theorem ok_collect_iff {arguments : List Argument} (h : AtMostOnce arguments)
    (options : FieldOptions) :
    (Except.ok (FieldOptions.collect arguments) : Except DeriveError FieldOptions) = .ok options ↔
      AtMostOnce arguments ∧ options = FieldOptions.collect arguments := by
  constructor
  · intro hok
    exact ⟨h, (Except.ok.inj hok).symm⟩
  · rintro ⟨-, rfl⟩
    rfl

/-- **One argument more takes effect just if it gives no annotation a second time**, and then it is
added to the collection. -/
theorem apply_collect {arguments : List Argument} (h : AtMostOnce arguments) (read : FieldArgument)
    (options : FieldOptions) :
    (FieldOptions.collect arguments).apply read = .ok options ↔
      AtMostOnce (arguments ++ [read.argument]) ∧
        options = FieldOptions.collect (arguments ++ [read.argument]) := by
  cases read with
  | annotate slot text =>
    rw [FieldOptions.apply, FieldOptions.get?_collect, FieldArgument.argument]
    cases htexts : slot.texts arguments with
    | nil =>
      have honce : AtMostOnce (arguments ++ [slot.argument text]) := by
        intro other
        rw [other.texts_concat, slot.text?_argument]
        by_cases hother : other = slot
        · simp [hother, htexts]
        · simpa [hother] using h other
      rw [set_collect htexts]
      exact ok_collect_iff honce options
    | cons first rest =>
      -- The slot has its text, so the argument is refused, and would be a second one.
      constructor
      · intro hok
        cases hok
      · rintro ⟨honce, -⟩
        have hslot := honce slot
        rw [slot.texts_concat, slot.text?_argument, htexts] at hslot
        simp at hslot
  | flatten =>
    have hcollect : { FieldOptions.collect arguments with flatten := true }
        = FieldOptions.collect (arguments ++ [.word "flatten"]) := by
      simp [FieldOptions.collect, texts_concat_word]
    rw [FieldOptions.apply, FieldArgument.argument, hcollect]
    exact ok_collect_iff (h.concat_word "flatten") options
  | skip =>
    have hcollect : { FieldOptions.collect arguments with skip := true }
        = FieldOptions.collect (arguments ++ [.word "skip"]) := by
      simp [FieldOptions.collect, texts_concat_word]
    rw [FieldOptions.apply, FieldArgument.argument, hcollect]
    exact ok_collect_iff (h.concat_word "skip") options

/-- **After every argument the run holds the collection of those before it.** -/
theorem foldlM_apply_eq_ok_iff {read : List FieldArgument} :
    ∀ {options : FieldOptions}, read.foldlM FieldOptions.apply {} = .ok options ↔
      AtMostOnce (read.map FieldArgument.argument) ∧
        options = FieldOptions.collect (read.map FieldArgument.argument) := by
  -- From the end: the run has the collection of all arguments before the last when it comes to it.
  induction read using List.reverseRecOn with
  | nil =>
    intro options
    constructor
    · intro h
      cases h
      exact ⟨fun slot => Nat.zero_le 1, rfl⟩
    · rintro ⟨-, rfl⟩
      rfl
  | append_singleton before last ih =>
    intro options
    rw [List.foldlM_append, bind_eq_ok_iff, List.map_append]
    constructor
    · rintro ⟨between, hbetween, hlast⟩
      obtain ⟨honce, rfl⟩ := ih.1 hbetween
      rw [List.foldlM_cons] at hlast
      obtain ⟨last', hlast, hdone⟩ := bind_eq_ok_iff.1 hlast
      cases hdone
      exact (apply_collect honce last options).1 hlast
    · rintro ⟨honce, hoptions⟩
      refine ⟨_, ih.2 ⟨honce.of_concat, rfl⟩, ?_⟩
      rw [List.foldlM_cons, bind_eq_ok_iff]
      exact ⟨options, (apply_collect honce.of_concat last options).2 ⟨honce, hoptions⟩, rfl⟩

/-! ## What attributes say -/

/-- Attributes are accepted just if all of them have lists, a field takes all their arguments, and
none of these is a second annotation of its slot. -/
theorem ofAttributes_eq_ok_iff {attributes : List Attribute} {options : FieldOptions} :
    FieldOptions.ofAttributes attributes = .ok options ↔
      HasLists attributes ∧
        (∀ argument ∈ queryArguments attributes, argument.IsForField) ∧
        AtMostOnce (queryArguments attributes) ∧
        options = FieldOptions.collect (queryArguments attributes) := by
  rw [ofAttributes_eq_ok_iff_run]
  refine and_congr_right fun _ => ?_
  constructor
  · rintro ⟨read, hread, hrun⟩
    rw [hread]
    exact ⟨List.forall_mem_map.2 fun argument _ => isForField_iff.2 ⟨argument, rfl⟩,
      foldlM_apply_eq_ok_iff.1 hrun⟩
  · rintro ⟨hall, honce⟩
    obtain ⟨read, hread⟩ := exists_read hall
    rw [hread] at honce
    exact ⟨read, hread, foldlM_apply_eq_ok_iff.2 honce⟩

/--
**What attributes say is said by the collection of their arguments.**

* The attributes of a field are accepted just if all of those about the encoding have a list of
  arguments, each argument is a tag, a layout, a delimiter or one of the two words, and at most one
  tag, one layout and one delimiter are among them.
* Where they are accepted, they say what this collection of arguments says.
* So others that have lists too, with the same arguments in any order, in whatever attributes and
  with whatever attributes about something else in between, are accepted just if they are, and say
  the same.
-/
theorem FieldOptions.ofAttributes_collects (attributes : List Attribute) :
    ((∃ options, ofAttributes attributes = .ok options) ↔
      HasLists attributes ∧
        (∀ argument ∈ queryArguments attributes, argument.IsForField) ∧
        ∀ slot : Slot, (slot.texts (queryArguments attributes)).length ≤ 1) ∧
    (∀ options, ofAttributes attributes = .ok options →
      options = collect (queryArguments attributes)) ∧
    ∀ others : List Attribute, (HasLists others ↔ HasLists attributes) →
      (queryArguments others).Perm (queryArguments attributes) →
        ∀ options, ofAttributes others = .ok options ↔ ofAttributes attributes = .ok options := by
  refine ⟨?_, fun options h => (ofAttributes_eq_ok_iff.1 h).2.2.2,
    fun others hlists hperm options => ?_⟩
  · constructor
    · rintro ⟨options, h⟩
      obtain ⟨hlists, hall, honce, -⟩ := ofAttributes_eq_ok_iff.1 h
      exact ⟨hlists, hall, honce⟩
    · rintro ⟨hlists, hall, honce⟩
      exact ⟨_, ofAttributes_eq_ok_iff.2 ⟨hlists, hall, honce, rfl⟩⟩
  · rw [ofAttributes_eq_ok_iff, ofAttributes_eq_ok_iff, hlists]
    refine and_congr_right fun _ => ?_
    constructor
    · rintro ⟨hall, honce, hoptions⟩
      refine ⟨fun a ha => hall a (hperm.mem_iff.2 ha), honce.perm hperm.symm, ?_⟩
      rw [hoptions, collect_perm hperm (honce.perm hperm.symm)]
    · rintro ⟨hall, honce, hoptions⟩
      refine ⟨fun a ha => hall a (hperm.mem_iff.1 ha), honce.perm hperm, ?_⟩
      rw [hoptions, collect_perm hperm honce]

/-- The arguments of two attributes in another order, all but one in a single attribute. -/
theorem FieldOptions.ofAttributes_collects_regrouped :
    let attributes : List Attribute :=
      [.query [.word "flatten", .literal "a,int"],
        { name := "serde", body := .value },
        .query [.assignment "layout" "%Y", .word "flatten"]]
    let others : List Attribute :=
      [.query [.assignment "layout" "%Y"], .query [],
        .query [.literal "a,int", .word "flatten", .word "flatten"]]
    let options : FieldOptions := { tag := some "a,int", layout := some "%Y", flatten := true }
    (HasLists others ↔ HasLists attributes) ∧
      (queryArguments others).Perm (queryArguments attributes) ∧
      ofAttributes attributes = .ok options ∧ ofAttributes others = .ok options ∧
      options = collect (queryArguments attributes) := by
  intro attributes others options
  have hlists : HasLists others ↔ HasLists attributes :=
    iff_of_true (by simp [others, HasLists, Attribute.HasList, Attribute.query])
      (by simp [attributes, HasLists, Attribute.HasList, Attribute.query, Attribute.isQuery])
  have hperm : (queryArguments others).Perm (queryArguments attributes) := by decide
  have hoptions : ofAttributes attributes = .ok options := by rfl
  obtain ⟨-, hcollect, hothers⟩ := FieldOptions.ofAttributes_collects attributes
  exact ⟨hlists, hperm, hoptions, (hothers others hlists hperm options).2 hoptions,
    hcollect options hoptions⟩

/-- An attribute without a list has no argument that could be wrong, and is refused all the same;
without the attribute nothing is. And a word that a field takes is refused as a raw one. -/
theorem FieldOptions.ofAttributes_bare :
    (∀ bare : Attribute, bare ∈ [{ body := .nothing }, { body := .value }] →
      queryArguments [bare] = queryArguments [] ∧
        (∀ argument ∈ queryArguments [bare], argument.IsForField) ∧
        (∀ slot : Slot, (slot.texts (queryArguments [bare])).length ≤ 1) ∧
        ¬ ∃ options, ofAttributes [bare] = .ok options) ∧
    ofAttributes [] = .ok {} ∧
    Spells "skip" "r#skip" ∧
    ofAttributes [.query [.word "r#skip"]] = .error (.unknownFieldArgument "r#skip") := by
  refine ⟨fun bare hbare => ?_, rfl, .raw, rfl⟩
  simp only [List.mem_cons, List.not_mem_nil, or_false] at hbare
  rcases hbare with rfl | rfl
  all_goals
    refine ⟨rfl, List.forall_mem_nil _, fun slot => Nat.zero_le 1, ?_⟩
    rintro ⟨options, h⟩
    cases h

end UrlQuery.Derive
