import UrlQuery.Proofs.Derive.Rename

/-!
# Forms that a rule keeps

What the form of a name in ASCII looks like: `HasForm` says it for each rule, and what a rule writes
always has its form (`hasForm_applyChars`). All rules but the screaming ones keep the texts of their
form and no others (`applyChars_eq_self_iff`), and so to apply such a rule once more changes nothing
(`apply_settles`). No rule changes more of a text than letter case and the marks between its words
(`bare_applyChars`).
-/

namespace UrlQuery.RenameRule

variable {c : Char} {cs : List Char}

/-! ## One character of a name -/

/-- A character is written in lower case, with an underscore in front of it or none. -/
theorem snakeFrom_cons (hc : c.toNat < 0x80) (before : Option Char) (rest : List Char) :
    ∃ marks, (∀ m ∈ marks, m = '_') ∧
      snakeFrom before (c :: rest) = marks ++ c.toLower :: snakeFrom (some c.toLower) rest := by
  rw [snakeFrom]
  by_cases hupper : Unicode.isUpper c = true
  · rw [if_pos hupper, Unicode.lower_of_ascii hc, List.append_assoc]
    refine ⟨if before.all (· == '_') then [] else ['_'], fun m hm => ?_, rfl⟩
    split at hm
    · cases hm
    · exact List.mem_singleton.1 hm
  · have hkept : c.toLower = c := by
      rw [Unicode.isUpper_of_ascii hc] at hupper
      exact Char.toLower_eq_of_not_isUpper hupper
    rw [if_neg hupper, hkept]
    exact ⟨[], fun m hm => absurd hm List.not_mem_nil, rfl⟩

/-- A character that is no underscore is kept or gets a capital. -/
theorem camelFrom_cons (hc : c.toNat < 0x80) (hne : c ≠ '_') (started capital : Bool)
    (rest : List Char) :
    ∃ d, (d = c ∨ d = c.toUpper) ∧
      camelFrom started capital (c :: rest) = d :: camelFrom true false rest := by
  rw [camelFrom, if_neg hne, Unicode.upper_of_ascii hc]
  cases capital with
  | true => exact ⟨c.toUpper, .inr rfl, rfl⟩
  | false => exact ⟨c, .inl rfl, rfl⟩

/-! ## What forms are made of -/

/-- A capital is no underscore if the letter is none. -/
theorem toUpper_of_ne_underscore (h : c.toNat < 0x80 ∧ c ≠ '_') :
    c.toUpper.toNat < 0x80 ∧ c.toUpper ≠ '_' :=
  ⟨Unicode.toNat_toUpper_lt h.1, fun heq => h.2 ((Unicode.toUpper_eq_iff (by decide)).1 heq)⟩

/-- The snake form is ASCII without capitals: by induction on the text, whatever was written in
front of it. -/
theorem of_mem_snakeFrom (h : ∀ c ∈ cs, c.toNat < 0x80) (before : Option Char)
    (hc : c ∈ snakeFrom before cs) : c.toNat < 0x80 ∧ c.isUpper = false := by
  induction cs generalizing before with
  | nil => cases hc
  | cons first rest ih =>
    obtain ⟨hfirst, hrest⟩ := List.forall_mem_cons.1 h
    obtain ⟨marks, hmarks, heq⟩ := snakeFrom_cons hfirst before rest
    rw [heq] at hc
    rcases List.mem_append.1 hc with hc | hc
    · -- The mark that may stand in front is an underscore.
      rw [hmarks c hc]
      decide
    · rcases List.mem_cons.1 hc with rfl | hc
      · exact ⟨Unicode.toNat_toLower_lt hfirst, Char.isUpper_toLower_eq_false first⟩
      · exact ih hrest _ hc

/-- The camel form is ASCII without underscores: by induction on the text, for all flags at once, as
an underscore changes one. -/
theorem of_mem_camelFrom (h : ∀ c ∈ cs, c.toNat < 0x80) (started capital : Bool)
    (hc : c ∈ camelFrom started capital cs) : c.toNat < 0x80 ∧ c ≠ '_' := by
  induction cs generalizing started capital with
  | nil => cases hc
  | cons first rest ih =>
    obtain ⟨hfirst, hrest⟩ := List.forall_mem_cons.1 h
    by_cases hne : first = '_'
    · -- An underscore writes nothing: it only says whether a capital is next.
      rw [camelFrom, if_pos hne] at hc
      exact ih hrest _ _ hc
    · obtain ⟨d, hd, heq⟩ := camelFrom_cons hfirst hne started capital rest
      rw [heq] at hc
      rcases List.mem_cons.1 hc with rfl | hc
      · rcases hd with rfl | rfl
        · exact ⟨hfirst, hne⟩
        · exact toUpper_of_ne_underscore ⟨hfirst, hne⟩
      · exact ih hrest _ _ hc

theorem of_mem_snake (h : ∀ c ∈ cs, c.toNat < 0x80) (hc : c ∈ snake cs) :
    c.toNat < 0x80 ∧ c.isUpper = false :=
  of_mem_snakeFrom h none hc

theorem of_mem_camel (h : ∀ c ∈ cs, c.toNat < 0x80) (hc : c ∈ camel cs) :
    c.toNat < 0x80 ∧ c ≠ '_' :=
  of_mem_camelFrom h false false hc

/-- The Pascal form has a capital in front of the camel form, if there is a first character. -/
theorem pascal_cases (h : ∀ c ∈ cs, c.toNat < 0x80) :
    (camel cs = [] ∧ pascal cs = []) ∨
      ∃ d rest, camel cs = d :: rest ∧ pascal cs = d.toUpper :: rest := by
  unfold pascal
  cases hcamel : camel cs with
  | nil => exact .inl ⟨rfl, rfl⟩
  | cons d rest =>
    have hd : d ∈ camel cs := by
      rw [hcamel]
      exact List.mem_cons_self
    refine .inr ⟨d, rest, rfl, ?_⟩
    show Unicode.upper d ++ rest = _
    rw [Unicode.upper_of_ascii (of_mem_camel h hd).1]
    rfl

theorem of_mem_pascal (h : ∀ c ∈ cs, c.toNat < 0x80) (hc : c ∈ pascal cs) :
    c.toNat < 0x80 ∧ c ≠ '_' := by
  rcases pascal_cases h with ⟨-, heq⟩ | ⟨d, rest, hcamel, heq⟩
  · rw [heq] at hc
    cases hc
  · rw [heq] at hc
    rcases List.mem_cons.1 hc with rfl | hc
    · exact toUpper_of_ne_underscore (of_mem_camel h (by rw [hcamel]; exact List.mem_cons_self))
    · exact of_mem_camel h (by rw [hcamel]; exact List.mem_cons_of_mem d hc)

/-- What holds of a hyphen and of a text holds of the text with hyphens. -/
theorem forall_mem_hyphenated {p : Char → Prop} (hhyphen : p '-') (h : ∀ c ∈ cs, p c) :
    ∀ c ∈ hyphenated cs, p c := by
  intro c hc
  obtain ⟨d, hd, rfl⟩ := List.mem_map.1 hc
  split
  · exact hhyphen
  · exact h d hd

theorem underscore_notMem_hyphenated (cs : List Char) : '_' ∉ hyphenated cs := by
  intro h
  obtain ⟨d, -, hd⟩ := List.mem_map.1 h
  split at hd
  · cases hd
  · contradiction

/-! ## Forms -/

/-- The rule sets marks between words and writes the words in capitals. -/
def isScreaming : RenameRule → Bool
  | screamingSnakeCase | screamingKebabCase => true
  | _ => false

/--
The text looks as the rule writes it. Camel forms have no underscore, and capitals may stand
anywhere in them; a Pascal form begins with no small letter.
-/
def HasForm : RenameRule → List Char → Prop
  | lowerCase, cs | snakeCase, cs => ∀ c ∈ cs, c.isUpper = false
  | upperCase, cs | screamingSnakeCase, cs => ∀ c ∈ cs, c.isLower = false
  | camelCase, cs => '_' ∉ cs
  | pascalCase, cs => '_' ∉ cs ∧ ∀ c ∈ cs.head?, c.isLower = false
  | kebabCase, cs => '_' ∉ cs ∧ ∀ c ∈ cs, c.isUpper = false
  | screamingKebabCase, cs => '_' ∉ cs ∧ ∀ c ∈ cs, c.isLower = false

/-- Forms of names in ASCII are ASCII. -/
theorem ascii_applyChars (rule : RenameRule) (h : ∀ c ∈ cs, c.toNat < 0x80) :
    ∀ c ∈ rule.applyChars cs, c.toNat < 0x80 := by
  have hsnake : ∀ c ∈ snake cs, c.toNat < 0x80 := fun c hc => (of_mem_snake h hc).1
  have hupper : ∀ c ∈ Unicode.uppercased (snake cs), c.toNat < 0x80 := fun c hc =>
    (Unicode.of_mem_uppercased hsnake hc).1
  cases rule with
  | lowerCase => exact fun c hc => (Unicode.of_mem_lowercase h hc).1
  | upperCase => exact fun c hc => (Unicode.of_mem_uppercased h hc).1
  | camelCase => exact fun c hc => (of_mem_camel h hc).1
  | pascalCase => exact fun c hc => (of_mem_pascal h hc).1
  | snakeCase => exact hsnake
  | screamingSnakeCase => exact hupper
  | kebabCase => exact forall_mem_hyphenated (by decide) hsnake
  | screamingKebabCase => exact forall_mem_hyphenated (by decide) hupper

theorem isLower_head?_pascal (h : ∀ c ∈ cs, c.toNat < 0x80) :
    ∀ c ∈ (pascal cs).head?, c.isLower = false := by
  rcases pascal_cases h with ⟨-, heq⟩ | ⟨d, rest, -, heq⟩
  · rw [heq]
    intro c hc
    cases hc
  · rw [heq]
    intro c hc
    obtain rfl := Option.mem_some_iff.1 hc
    exact Char.isLower_toUpper_eq_false d

/-- **What a rule writes has its form.** -/
theorem hasForm_applyChars (rule : RenameRule) (h : ∀ c ∈ cs, c.toNat < 0x80) :
    rule.HasForm (rule.applyChars cs) := by
  have hsnake : ∀ c ∈ snake cs, c.isUpper = false := fun c hc => (of_mem_snake h hc).2
  have hupper : ∀ c ∈ Unicode.uppercased (snake cs), c.isLower = false := fun c hc =>
    (Unicode.of_mem_uppercased (fun d hd => (of_mem_snake h hd).1) hc).2
  cases rule with
  | lowerCase => exact fun c hc => (Unicode.of_mem_lowercase h hc).2
  | upperCase => exact fun c hc => (Unicode.of_mem_uppercased h hc).2
  | camelCase => exact fun hmem => (of_mem_camel h hmem).2 rfl
  | pascalCase => exact ⟨fun hmem => (of_mem_pascal h hmem).2 rfl, isLower_head?_pascal h⟩
  | snakeCase => exact hsnake
  | screamingSnakeCase => exact hupper
  | kebabCase =>
    exact ⟨underscore_notMem_hyphenated _, forall_mem_hyphenated (by decide) hsnake⟩
  | screamingKebabCase =>
    exact ⟨underscore_notMem_hyphenated _, forall_mem_hyphenated (by decide) hupper⟩

/-! ## Texts that are kept -/

/-- A text without underscores is its own camel form. -/
theorem camel_of_notMem (h : '_' ∉ cs) : camel cs = cs := by
  have happend := camelFrom_append h false []
  rwa [List.append_nil, camelFrom, List.append_nil] at happend

/-- A text without underscores that begins with no small letter is its own Pascal form. -/
theorem pascal_of_notMem (hascii : ∀ c ∈ cs, c.toNat < 0x80) (h : '_' ∉ cs)
    (hhead : ∀ c ∈ cs.head?, c.isLower = false) : pascal cs = cs := by
  have hcamel : camel cs = cs := camel_of_notMem h
  rcases pascal_cases hascii with ⟨hnil, heq⟩ | ⟨d, rest, hcons, heq⟩
  · rw [heq, ← hnil, hcamel]
  · rw [hcamel] at hcons
    have hd : d.isLower = false := hhead d (by rw [hcons]; rfl)
    rw [heq, hcons, Char.toUpper_eq_of_not_isLower (by simp [hd])]

theorem snake_of_isUpper_eq_false (hascii : ∀ c ∈ cs, c.toNat < 0x80)
    (h : ∀ c ∈ cs, c.isUpper = false) : snake cs = cs :=
  snakeFrom_of_not_isUpper none fun c hc => by
    rw [Unicode.isUpper_of_ascii (hascii c hc), h c hc]
    exact Bool.false_ne_true

/-- **A text that has the form of a rule is kept**, if the rule is none of the screaming ones. -/
theorem applyChars_of_hasForm {rule : RenameRule} (hrule : rule.isScreaming = false)
    (hascii : ∀ c ∈ cs, c.toNat < 0x80) (h : rule.HasForm cs) : rule.applyChars cs = cs := by
  cases rule with
  | lowerCase =>
    rw [applyChars, Unicode.lowercase_of_ascii hascii]
    exact Unicode.map_eq_self fun c hc => Char.toLower_eq_of_not_isUpper (by simp [h c hc])
  | upperCase =>
    rw [applyChars, Unicode.uppercased_of_ascii hascii]
    exact Unicode.map_eq_self fun c hc => Char.toUpper_eq_of_not_isLower (by simp [h c hc])
  | camelCase => exact camel_of_notMem h
  | pascalCase => exact pascal_of_notMem hascii h.1 h.2
  | snakeCase => exact snake_of_isUpper_eq_false hascii h
  | screamingSnakeCase => cases hrule
  | kebabCase => rw [applyChars, snake_of_isUpper_eq_false hascii h.2, hyphenated_of_notMem h.1]
  | screamingKebabCase => cases hrule

theorem applyChars_eq_self_iff {rule : RenameRule} (hrule : rule.isScreaming = false)
    (hascii : ∀ c ∈ cs, c.toNat < 0x80) : rule.applyChars cs = cs ↔ rule.HasForm cs := by
  constructor
  · intro heq
    have hform := rule.hasForm_applyChars hascii
    rwa [heq] at hform
  · exact applyChars_of_hasForm hrule hascii

/-! ## What no rule changes -/

/-- The text in lower case, without the marks that stand between words. -/
def bare (cs : List Char) : List Char :=
  (cs.filter fun c => c != '_' && c != '-').map Char.toLower

theorem bare_append (a b : List Char) : bare (a ++ b) = bare a ++ bare b := by
  unfold bare
  rw [List.filter_append, List.map_append]

theorem bare_cons (c : Char) (cs : List Char) : bare (c :: cs) = bare [c] ++ bare cs :=
  bare_append [c] cs

theorem bare_of_underscores (h : ∀ c ∈ cs, c = '_') : bare cs = [] := by
  have hfilter : (cs.filter fun c => c != '_' && c != '-') = [] :=
    List.filter_eq_nil_iff.2 fun c hc => by simp [h c hc]
  rw [bare, hfilter, List.map_nil]

/-- Two characters that differ in case alone leave the same. -/
theorem bare_of_toLower_eq {d : Char} (hlower : d.toLower = c.toLower)
    (hmark : ∀ mark, mark.isAlpha = false → (d = mark ↔ c = mark)) : bare [d] = bare [c] := by
  have hunderscore := hmark '_' (by decide)
  have hhyphen := hmark '-' (by decide)
  by_cases hc : c = '_' ∨ c = '-'
  · rcases hc with rfl | rfl
    · rw [hunderscore.2 rfl]
    · rw [hhyphen.2 rfl]
  · rw [not_or] at hc
    simp [bare, hc.1, hc.2, hunderscore, hhyphen, hlower]

theorem bare_toLower (c : Char) : bare [c.toLower] = bare [c] :=
  bare_of_toLower_eq (Char.toLower_toLower_eq_toLower c) fun _ => Unicode.toLower_eq_iff

theorem bare_toUpper (c : Char) : bare [c.toUpper] = bare [c] :=
  bare_of_toLower_eq (Char.toLower_toUpper_eq_toLower c) fun _ => Unicode.toUpper_eq_iff

theorem bare_map {f : Char → Char} (h : ∀ c, bare [f c] = bare [c]) (cs : List Char) :
    bare (cs.map f) = bare cs := by
  induction cs with
  | nil => rfl
  | cons c rest ih => rw [List.map_cons, bare_cons, h, ih, ← bare_cons]

theorem bare_hyphenated (cs : List Char) : bare (hyphenated cs) = bare cs := by
  refine bare_map (fun c => ?_) cs
  split
  · rename_i hc
    rw [hc]
    rfl
  · rfl

theorem bare_uppercased (h : ∀ c ∈ cs, c.toNat < 0x80) :
    bare (Unicode.uppercased cs) = bare cs := by
  rw [Unicode.uppercased_of_ascii h, bare_map bare_toUpper]

theorem bare_snakeFrom (h : ∀ c ∈ cs, c.toNat < 0x80) (before : Option Char) :
    bare (snakeFrom before cs) = bare cs := by
  induction cs generalizing before with
  | nil => rfl
  | cons c rest ih =>
    obtain ⟨hc, hrest⟩ := List.forall_mem_cons.1 h
    obtain ⟨marks, hmarks, heq⟩ := snakeFrom_cons hc before rest
    rw [heq, bare_append, bare_of_underscores hmarks, List.nil_append, bare_cons, bare_toLower,
      ih hrest, ← bare_cons]

theorem bare_camelFrom (h : ∀ c ∈ cs, c.toNat < 0x80) (started capital : Bool) :
    bare (camelFrom started capital cs) = bare cs := by
  induction cs generalizing started capital with
  | nil => rfl
  | cons c rest ih =>
    obtain ⟨hc, hrest⟩ := List.forall_mem_cons.1 h
    by_cases hne : c = '_'
    · rw [camelFrom, if_pos hne, ih hrest, hne]
      rfl
    · obtain ⟨d, hd, heq⟩ := camelFrom_cons hc hne started capital rest
      have hbare : bare [d] = bare [c] := by
        rcases hd with rfl | rfl
        · rfl
        · exact bare_toUpper c
      rw [heq, bare_cons, hbare, ih hrest, ← bare_cons]

theorem bare_pascal (h : ∀ c ∈ cs, c.toNat < 0x80) : bare (pascal cs) = bare cs := by
  have hcamel : bare (camel cs) = bare cs := bare_camelFrom h false false
  rcases pascal_cases h with ⟨hnil, heq⟩ | ⟨d, rest, hcons, heq⟩
  · rw [heq, ← hnil, hcamel]
  · rw [heq, bare_cons, bare_toUpper, ← bare_cons, ← hcons, hcamel]

/-- **No rule changes more than letter case and marks.** -/
theorem bare_applyChars (rule : RenameRule) (h : ∀ c ∈ cs, c.toNat < 0x80) :
    bare (rule.applyChars cs) = bare cs := by
  have hsnake : bare (snake cs) = bare cs := bare_snakeFrom h none
  have hupper : bare (Unicode.uppercased (snake cs)) = bare cs := by
    rw [bare_uppercased fun c hc => (of_mem_snake h hc).1, hsnake]
  cases rule with
  | lowerCase => rw [applyChars, Unicode.lowercase_of_ascii h, bare_map bare_toLower]
  | upperCase => exact bare_uppercased h
  | camelCase => exact bare_camelFrom h false false
  | pascalCase => exact bare_pascal h
  | snakeCase => exact hsnake
  | screamingSnakeCase => exact hupper
  | kebabCase => rw [applyChars, bare_hyphenated, hsnake]
  | screamingKebabCase => rw [applyChars, bare_hyphenated, hupper]

/-! ## Names as text -/

theorem toList_apply (rule : RenameRule) (name : String) :
    (rule.apply name).toList = rule.applyChars name.toList :=
  String.toList_ofList

theorem apply_eq_self_iff (rule : RenameRule) (name : String) :
    rule.apply name = name ↔ rule.applyChars name.toList = name.toList := by
  rw [← String.toList_inj, toList_apply]

/--
**Renaming settles.** For a name in ASCII, with marks and capitals anywhere:

* What a rule writes has the form of the rule, and no rule changes more of the name than letter case
  and the marks between its words.
* A rule that is none of the screaming ones keeps the names of its form and no others, and so to
  apply it twice is to apply it once.
* The camel, the Pascal and the kebab form have no underscore, and the snake form has no capital.
-/
theorem apply_settles {name : String} (h : ∀ c ∈ name.toList, c.toNat < 0x80) :
    (∀ rule : RenameRule,
      rule.HasForm (rule.apply name).toList ∧ bare (rule.apply name).toList = bare name.toList) ∧
    (∀ rule : RenameRule, rule.isScreaming = false →
      (rule.apply name = name ↔ rule.HasForm name.toList) ∧
      rule.apply (rule.apply name) = rule.apply name) ∧
    '_' ∉ (camelCase.apply name).toList ∧
    '_' ∉ (pascalCase.apply name).toList ∧
    '_' ∉ (kebabCase.apply name).toList ∧
    ∀ c ∈ (snakeCase.apply name).toList, Unicode.isUpper c = false := by
  have hascii (rule : RenameRule) : ∀ c ∈ (rule.apply name).toList, c.toNat < 0x80 := by
    rw [toList_apply]
    exact rule.ascii_applyChars h
  have hform (rule : RenameRule) : rule.HasForm (rule.apply name).toList := by
    rw [toList_apply]
    exact rule.hasForm_applyChars h
  refine ⟨fun rule => ⟨hform rule, ?_⟩, fun rule hrule => ⟨?_, ?_⟩, hform camelCase,
    (hform pascalCase).1, (hform kebabCase).1, fun c hc => ?_⟩
  · rw [toList_apply, rule.bare_applyChars h]
  · rw [apply_eq_self_iff, applyChars_eq_self_iff hrule h]
  · rw [apply_eq_self_iff, applyChars_eq_self_iff hrule (hascii rule)]
    exact hform rule
  · rw [Unicode.isUpper_of_ascii (hascii snakeCase c hc)]
    exact hform snakeCase c hc

/-- Marks in front, behind, repeated and of both kinds, and capitals next to each other. -/
theorem apply_settles_mixed :
    let name := "__Max-page__ID2_"
    (∀ c ∈ name.toList, c.toNat < 0x80) ∧
    snakeCase.apply name = "__max-page__i_d2_" ∧
    snakeCase.apply "__max-page__i_d2_" = "__max-page__i_d2_" ∧
    camelCase.apply name = "Max-pageID2" ∧
    camelCase.apply "Max-pageID2" = "Max-pageID2" ∧
    '_' ∉ (kebabCase.apply name).toList := by
  intro name
  have hall : name.toList.all (fun c => decide (c.toNat < 0x80)) = true := by decide
  have hascii : ∀ c ∈ name.toList, c.toNat < 0x80 := fun c hc =>
    of_decide_eq_true (List.all_eq_true.1 hall c hc)
  have hsnake : snakeCase.apply name = "__max-page__i_d2_" := by decide
  have hcamel : camelCase.apply name = "Max-pageID2" := by decide
  obtain ⟨-, htwice, -, -, hkebab, -⟩ := apply_settles hascii
  have hsnake_twice := (htwice snakeCase rfl).2
  have hcamel_twice := (htwice camelCase rfl).2
  rw [hsnake] at hsnake_twice
  rw [hcamel] at hcamel_twice
  exact ⟨hascii, hsnake, hsnake_twice, hcamel, hcamel_twice, hkebab⟩

/-- A screaming form is read as words of one letter each. -/
example : screamingSnakeCase.apply "id" = "ID" ∧ screamingSnakeCase.apply "ID" = "I_D" := by
  decide

end UrlQuery.RenameRule
