import UrlQuery.Derive.Attribute

/-!
# The arguments that lexemes make

Commas part the arguments of an attribute (`argumentsOf`), and one more comma may stand behind the
last. The readers know nothing of this: they go from left to right, and stop at the first lexeme
that does not fit. Where they do not stop, they have read one argument after the other
(`readAll_eq_ok_iff` for a field, `readRules_eq_ok_iff` for a struct).

Both readers are compared with the arguments by what stands behind an argument: nothing, or a comma
and further arguments (`argumentsOf_eq_cons_iff`).
-/

namespace UrlQuery

namespace Derive

theorem bind_eq_ok_iff {α β : Type} {first : Except DeriveError α}
    {next : α → Except DeriveError β} {b : β} :
    first >>= next = .ok b ↔ ∃ a, first = .ok a ∧ next a = .ok b := by
  cases first with
  | error e =>
    constructor
    · intro h
      cases h
    · rintro ⟨a, ha, -⟩
      cases ha
  | ok a =>
    constructor
    · intro h
      exact ⟨a, rfl, h⟩
    · rintro ⟨_, ha, h⟩
      cases ha
      exact h

/-! ## Parting by commas -/

/-- The arguments between the commas. -/
def argumentsOf : List Lexeme → List Argument
  | [] => []
  | .comma :: rest => [] :: argumentsOf rest
  | lexeme :: rest =>
    match argumentsOf rest with
    | [] => [[lexeme]]
    | first :: others => (lexeme :: first) :: others

/-- The arguments of an attribute; one that has no list of them has none. -/
def Attribute.arguments (a : Attribute) : List Argument :=
  match a.body with
  | .nothing => []
  | .list lexemes => argumentsOf lexemes
  | .value => []

theorem argumentsOf_cons_of_ne {lexeme : Lexeme} (h : lexeme ≠ .comma) (rest : List Lexeme) :
    argumentsOf (lexeme :: rest)
      = (lexeme :: (argumentsOf rest).headD []) :: (argumentsOf rest).tail := by
  rw [argumentsOf]
  · cases argumentsOf rest <;> rfl
  · exact h

theorem argumentsOf_eq_nil_iff {lexemes : List Lexeme} :
    argumentsOf lexemes = [] ↔ lexemes = [] := by
  constructor
  · intro h
    cases lexemes with
    | nil => rfl
    | cons lexeme rest =>
      by_cases hcomma : lexeme = .comma
      · rw [hcomma, argumentsOf] at h
        cases h
      · rw [argumentsOf_cons_of_ne hcomma] at h
        cases h
  · rintro rfl
    rfl

/-- An argument with a comma behind it. -/
theorem argumentsOf_append_comma {argument : Argument} (hcomma : .comma ∉ argument)
    (rest : List Lexeme) :
    argumentsOf (argument ++ .comma :: rest) = argument :: argumentsOf rest := by
  induction argument with
  | nil => rfl
  | cons lexeme argument ih =>
    rw [List.mem_cons, not_or] at hcomma
    rw [List.cons_append, argumentsOf_cons_of_ne (Ne.symm hcomma.1), ih hcomma.2]
    rfl

/-- An argument with nothing behind it. -/
theorem argumentsOf_of_comma_notMem {argument : Argument} (hne : argument ≠ [])
    (hcomma : .comma ∉ argument) : argumentsOf argument = [argument] := by
  induction argument with
  | nil => exact absurd rfl hne
  | cons lexeme argument ih =>
    rw [List.mem_cons, not_or] at hcomma
    rw [argumentsOf_cons_of_ne (Ne.symm hcomma.1)]
    cases argument with
    | nil => rfl
    | cons second rest =>
      rw [ih (List.cons_ne_nil second rest) hcomma.2]
      rfl

/-- The first argument ends where the lexemes end, or at a comma. -/
theorem cases_of_argumentsOf_eq_cons {lexemes : List Lexeme} :
    ∀ {argument : Argument} {others : List Argument}, argumentsOf lexemes = argument :: others →
      (lexemes = argument ∧ others = []) ∨
        ∃ rest, lexemes = argument ++ .comma :: rest ∧ argumentsOf rest = others := by
  induction lexemes with
  | nil =>
    intro argument others h
    cases h
  | cons lexeme rest ih =>
    intro argument others h
    by_cases hcomma : lexeme = .comma
    · rw [hcomma, argumentsOf] at h
      cases h
      exact .inr ⟨rest, by rw [hcomma]; rfl, rfl⟩
    · rw [argumentsOf_cons_of_ne hcomma] at h
      cases h
      cases hrest : argumentsOf rest with
      | nil =>
        rw [argumentsOf_eq_nil_iff.1 hrest]
        exact .inl ⟨rfl, rfl⟩
      | cons first others =>
        rcases ih hrest with ⟨rfl, rfl⟩ | ⟨behind, rfl, rfl⟩
        · exact .inl ⟨rfl, rfl⟩
        · exact .inr ⟨behind, rfl, rfl⟩

/-- **The lexemes begin with an argument that ends where they end, or at a comma.** -/
theorem argumentsOf_eq_cons_iff {argument : Argument} (hne : argument ≠ [])
    (hcomma : .comma ∉ argument) {lexemes : List Lexeme} {others : List Argument} :
    argumentsOf lexemes = argument :: others ↔
      (lexemes = argument ∧ others = []) ∨
        ∃ rest, lexemes = argument ++ .comma :: rest ∧ argumentsOf rest = others := by
  constructor
  · exact cases_of_argumentsOf_eq_cons
  · rintro (⟨rfl, rfl⟩ | ⟨rest, rfl, rfl⟩)
    · exact argumentsOf_of_comma_notMem hne hcomma
    · exact argumentsOf_append_comma hcomma rest

/-- **An attribute has the arguments that are written in it.** -/
theorem Attribute.arguments_query {arguments : List Argument}
    (h : ∀ argument ∈ arguments, argument ≠ [] ∧ .comma ∉ argument) :
    (query arguments).arguments = arguments := by
  show argumentsOf ([.comma].intercalate arguments) = arguments
  induction arguments with
  | nil => rfl
  | cons argument rest ih =>
    obtain ⟨⟨hne, hcomma⟩, hrest⟩ := List.forall_mem_cons.1 h
    cases rest with
    | nil =>
      rw [List.intercalate_singleton]
      exact argumentsOf_of_comma_notMem hne hcomma
    | cons second rest =>
      rw [List.intercalate_cons_cons, List.append_assoc, List.singleton_append,
        argumentsOf_append_comma hcomma, ih hrest]

/-- The attribute has its arguments in brackets. -/
def Attribute.HasList (a : Attribute) : Prop := ∃ lexemes, a.body = .list lexemes

theorem Attribute.lexemes_eq_ok_iff {a : Attribute} {lexemes : List Lexeme} :
    a.lexemes = .ok lexemes ↔ a.body = .list lexemes := by
  rw [Attribute.lexemes]
  cases a.body with
  | nothing | value => constructor <;> intro h <;> cases h
  | list held => rw [Except.ok.injEq, Body.list.injEq]

/-- What reads lexemes by their arguments reads the arguments of an attribute that has a list. -/
theorem Attribute.bind_lexemes_eq_ok_iff {α : Type} {a : Attribute} {out : α}
    {read : List Lexeme → Except DeriveError α} (reads : List Argument → Prop)
    (h : ∀ lexemes, read lexemes = .ok out ↔ reads (argumentsOf lexemes)) :
    a.lexemes >>= read = .ok out ↔ a.HasList ∧ reads a.arguments := by
  rw [bind_eq_ok_iff]
  constructor
  · rintro ⟨lexemes, hlexemes, hread⟩
    have hbody := lexemes_eq_ok_iff.1 hlexemes
    refine ⟨⟨lexemes, hbody⟩, ?_⟩
    rw [Attribute.arguments, hbody]
    exact (h lexemes).1 hread
  · rintro ⟨⟨lexemes, hbody⟩, hread⟩
    rw [Attribute.arguments, hbody] at hread
    exact ⟨lexemes, lexemes_eq_ok_iff.2 hbody, (h lexemes).2 hread⟩

/-! ## The arguments of a field -/

/-- The argument that annotates a slot. -/
def Slot.argument : Slot → String → Argument
  | tag, text => .literal text
  | layout, text => .assignment "layout" text
  | del, text => .assignment "del" text

namespace FieldArgument

/-- How what an argument does is written. -/
def argument : FieldArgument → Argument
  | annotate slot text => slot.argument text
  | flatten => .word "flatten"
  | skip => .word "skip"

theorem argument_ne_nil (read : FieldArgument) : read.argument ≠ [] := by
  obtain ⟨_ | _ | _, text⟩ | _ | _ := read <;> exact List.cons_ne_nil _ _

theorem comma_notMem_argument (read : FieldArgument) : .comma ∉ read.argument := by
  obtain ⟨_ | _ | _, text⟩ | _ | _ := read <;>
    simp [argument, Slot.argument, Argument.literal, Argument.assignment, Argument.word]

/-- An argument is read as what it is written for. -/
theorem readAll_append (read : FieldArgument) (rest : List Lexeme) :
    readAll (read.argument ++ rest) = readBehind read rest := by
  obtain ⟨_ | _ | _, text⟩ | _ | _ := read <;> rfl

/-- The annotation of a slot is read where it stands behind an equals sign. -/
theorem exists_of_readAnnotation_eq_ok {slot : Slot} {lexemes : List Lexeme}
    {read : List FieldArgument} (h : readAnnotation slot lexemes = .ok read) :
    ∃ text rest, lexemes = .equals :: .text text :: rest ∧
      readBehind (annotate slot text) rest = .ok read := by
  unfold readAnnotation at h
  split at h
  · next text rest => exact ⟨text, rest, rfl, h⟩
  · cases h

/-- Where lexemes are read, they begin with an argument, if there are any. -/
theorem cases_of_readAll_eq_ok {lexemes : List Lexeme} {read : List FieldArgument}
    (h : readAll lexemes = .ok read) :
    (lexemes = [] ∧ read = []) ∨
      ∃ first rest, lexemes = argument first ++ rest ∧ readBehind first rest = .ok read := by
  unfold readAll at h
  split at h
  · cases h
    exact .inl ⟨rfl, rfl⟩
  · next text rest => exact .inr ⟨annotate .tag text, rest, rfl, h⟩
  · next name rest =>
    obtain ⟨-, -, h⟩ := bind_eq_ok_iff.1 h
    split at h
    · exact .inr ⟨flatten, rest, rfl, h⟩
    · exact .inr ⟨skip, rest, rfl, h⟩
    · obtain ⟨text, rest, rfl, h⟩ := exists_of_readAnnotation_eq_ok h
      exact .inr ⟨annotate .layout text, rest, rfl, h⟩
    · obtain ⟨text, rest, rfl, h⟩ := exists_of_readAnnotation_eq_ok h
      exact .inr ⟨annotate .del text, rest, rfl, h⟩
    · cases h
  · cases h

/-- Behind an argument stands nothing, or a comma and further arguments. -/
theorem readBehind_eq_ok_iff {first : FieldArgument} {rest : List Lexeme}
    {read : List FieldArgument} :
    readBehind first rest = .ok read ↔
      (rest = [] ∧ read = [first]) ∨
        ∃ behind others, rest = .comma :: behind ∧ readAll behind = .ok others ∧
          read = first :: others := by
  constructor
  · intro h
    unfold readBehind at h
    split at h
    · cases h
      exact .inl ⟨rfl, rfl⟩
    · next behind =>
      obtain ⟨others, hothers, h⟩ := bind_eq_ok_iff.1 h
      cases h
      exact .inr ⟨behind, others, rfl, hothers, rfl⟩
    · cases h
  · rintro (⟨rfl, rfl⟩ | ⟨behind, others, rfl, hothers, rfl⟩)
    · rfl
    · rw [readBehind, hothers]
      rfl

/-- Nothing is read just where nothing stands. -/
theorem readAll_eq_ok_nil_iff {lexemes : List Lexeme} :
    readAll lexemes = .ok [] ↔ lexemes = [] := by
  constructor
  · intro h
    rcases cases_of_readAll_eq_ok h with ⟨hnil, -⟩ | ⟨first, rest, -, hread⟩
    · exact hnil
    · rcases readBehind_eq_ok_iff.1 hread with ⟨-, hnil⟩ | ⟨-, others, -, -, hnil⟩ <;> cases hnil
  · rintro rfl
    rfl

/-- The first argument that is read ends where the lexemes end, or at a comma. -/
theorem readAll_eq_ok_cons_iff {lexemes : List Lexeme} {first : FieldArgument}
    {others : List FieldArgument} :
    readAll lexemes = .ok (first :: others) ↔
      (lexemes = first.argument ∧ others = []) ∨
        ∃ rest, lexemes = first.argument ++ .comma :: rest ∧ readAll rest = .ok others := by
  constructor
  · intro h
    rcases cases_of_readAll_eq_ok h with ⟨-, hnil⟩ | ⟨first', rest, hlexemes, hread⟩
    · cases hnil
    · rcases readBehind_eq_ok_iff.1 hread with
        ⟨rfl, hfirst⟩ | ⟨behind, others', rfl, hothers, hfirst⟩ <;> cases hfirst
      · exact .inl ⟨hlexemes.trans (List.append_nil _), rfl⟩
      · exact .inr ⟨behind, hlexemes, hothers⟩
  · rintro (⟨rfl, rfl⟩ | ⟨rest, rfl, hothers⟩)
    · rw [← List.append_nil first.argument, readAll_append]
      rfl
    · rw [readAll_append, readBehind_eq_ok_iff]
      exact .inr ⟨rest, others, rfl, hothers, rfl⟩

/-- **What is read is what the arguments between the commas are written for.** -/
theorem readAll_eq_ok_iff {read : List FieldArgument} :
    ∀ {lexemes : List Lexeme},
      readAll lexemes = .ok read ↔ argumentsOf lexemes = read.map argument := by
  induction read with
  | nil =>
    intro lexemes
    rw [List.map_nil, argumentsOf_eq_nil_iff, readAll_eq_ok_nil_iff]
  | cons first others ih =>
    intro lexemes
    rw [List.map_cons, argumentsOf_eq_cons_iff first.argument_ne_nil first.comma_notMem_argument,
      readAll_eq_ok_cons_iff]
    simp only [ih, List.map_eq_nil_iff]

/-- A layout that is no text, and a word with brackets behind it. -/
example : readAll [.name "layout", .equals, .literal] = .error (.expectedText false) ∧
    readAll [.name "flatten", .other] = .error .expectedComma := ⟨rfl, rfl⟩

end FieldArgument

/-! ## The arguments of a struct -/

end Derive

namespace RenameRule

/-- The word that names a rule. -/
def word : RenameRule → String
  | lowerCase => "lowercase"
  | upperCase => "UPPERCASE"
  | camelCase => "camelCase"
  | pascalCase => "PascalCase"
  | snakeCase => "snake_case"
  | screamingSnakeCase => "SCREAMING_SNAKE_CASE"
  | kebabCase => "kebab-case"
  | screamingKebabCase => "SCREAMING-KEBAB-CASE"

theorem parse?_eq_some_iff {name : String} {rule : RenameRule} :
    parse? name = some rule ↔ name = rule.word := by
  constructor
  · intro h
    unfold parse? at h
    split at h <;> cases h <;> rfl
  · rintro rfl
    cases rule <;> rfl

/-- How a rule is set. -/
def argument (rule : RenameRule) : Derive.Argument := .assignment "rename_all" rule.word

theorem argument_ne_nil (rule : RenameRule) : rule.argument ≠ [] := List.cons_ne_nil _ _

theorem comma_notMem_argument (rule : RenameRule) : .comma ∉ rule.argument := by
  simp [argument, Derive.Argument.assignment]

end RenameRule

namespace Derive

/-- Behind a rule stands nothing, or a comma and further arguments. -/
theorem readRulesBehind_eq_ok_iff {rule : RenameRule} {rest : List Lexeme}
    {result : Option RenameRule} :
    readRulesBehind rule rest = .ok result ↔
      (rest = [] ∧ result = some rule) ∨
        ∃ behind, rest = .comma :: behind ∧ readRules (some rule) behind = .ok result := by
  constructor
  · intro h
    unfold readRulesBehind at h
    split at h
    · cases h
      exact .inl ⟨rfl, rfl⟩
    · next behind => exact .inr ⟨behind, rfl, h⟩
    · cases h
  · rintro (⟨rfl, rfl⟩ | ⟨behind, rfl, h⟩)
    · rfl
    · exact h

/-- A rule is read where it is set. -/
theorem readRules_append (rule : Option RenameRule) (first : RenameRule) (rest : List Lexeme) :
    readRules rule (first.argument ++ rest) = readRulesBehind first rest := by
  cases first <;> rfl

/-- Where lexemes are read, they begin with a rule, if there are any. -/
theorem cases_of_readRules_eq_ok {rule result : Option RenameRule} {lexemes : List Lexeme}
    (h : readRules rule lexemes = .ok result) :
    (lexemes = [] ∧ result = rule) ∨
      ∃ first rest, lexemes = RenameRule.argument first ++ rest ∧
        readRulesBehind first rest = .ok result := by
  unfold readRules at h
  split at h
  · cases h
    exact .inl ⟨rfl, rfl⟩
  · next name rest =>
    split at h
    · next first hfirst =>
      rw [RenameRule.parse?_eq_some_iff.1 hfirst]
      exact .inr ⟨first, rest, rfl, h⟩
    · cases h
  · cases h

/-- Of rules behind another the last counts, or that other. -/
theorem getLast?_or_some (rules : List RenameRule) (first : RenameRule)
    (rule : Option RenameRule) :
    rules.getLast?.or (some first) = (first :: rules).getLast?.or rule := by
  rw [Option.or_some, List.getLast?_cons]
  rfl

theorem exists_of_readRules_eq_ok {rule result : Option RenameRule} {lexemes : List Lexeme}
    (h : readRules rule lexemes = .ok result) :
    ∃ rules : List RenameRule, argumentsOf lexemes = rules.map RenameRule.argument ∧
      result = rules.getLast?.or rule := by
  rcases cases_of_readRules_eq_ok h with ⟨hlexemes, rfl⟩ | ⟨first, rest, hlexemes, hrest⟩
  · exact ⟨[], argumentsOf_eq_nil_iff.2 hlexemes, rfl⟩
  · rcases readRulesBehind_eq_ok_iff.1 hrest with ⟨rfl, rfl⟩ | ⟨behind, rfl, hbehind⟩
    · refine ⟨[first], ?_, rfl⟩
      rw [hlexemes, List.append_nil]
      exact argumentsOf_of_comma_notMem first.argument_ne_nil first.comma_notMem_argument
    · have hshorter : behind.length < lexemes.length := by
        rw [hlexemes, List.length_append, List.length_cons]
        omega
      obtain ⟨rules, hrules, hresult⟩ := exists_of_readRules_eq_ok hbehind
      refine ⟨first :: rules, ?_, ?_⟩
      · rw [hlexemes, argumentsOf_append_comma first.comma_notMem_argument, hrules, List.map_cons]
      · rw [hresult, getLast?_or_some]
termination_by lexemes.length

theorem readRules_of_argumentsOf {rules : List RenameRule} :
    ∀ {rule : Option RenameRule} {lexemes : List Lexeme},
      argumentsOf lexemes = rules.map RenameRule.argument →
        readRules rule lexemes = .ok (rules.getLast?.or rule) := by
  induction rules with
  | nil =>
    intro rule lexemes h
    rw [argumentsOf_eq_nil_iff.1 h]
    rfl
  | cons first others ih =>
    intro rule lexemes h
    rw [List.map_cons, argumentsOf_eq_cons_iff first.argument_ne_nil first.comma_notMem_argument]
      at h
    rcases h with ⟨rfl, hothers⟩ | ⟨rest, rfl, hrest⟩
    · rw [List.map_eq_nil_iff.1 hothers, ← List.append_nil first.argument, readRules_append]
      rfl
    · rw [readRules_append, readRulesBehind, ih hrest, getLast?_or_some]

/-- **The last of the rules that the arguments between the commas set is read.** -/
theorem readRules_eq_ok_iff {rule result : Option RenameRule} {lexemes : List Lexeme} :
    readRules rule lexemes = .ok result ↔
      ∃ rules : List RenameRule, argumentsOf lexemes = rules.map RenameRule.argument ∧
        result = rules.getLast?.or rule := by
  constructor
  · exact exists_of_readRules_eq_ok
  · rintro ⟨rules, hrules, rfl⟩
    exact readRules_of_argumentsOf hrules

end Derive

end UrlQuery
