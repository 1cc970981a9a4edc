import UrlQuery.Derive.Rename
import UrlQuery.Proofs.Text.Case
import UrlQuery.Proofs.Text.Mark

/-!
# Names of words

A `SnakeName` is made of words with an underscore between each two. The camel form of such a name
joins its words and gives a capital to all but the first (`camel_chars`), and the snake form finds
the words again by their capitals (`snakeFrom_capitalized`). So every rule can be read back
(`readBack_applyChars`), and no rule gives one form to two of these names (`apply_snakeName`).
-/

namespace UrlQuery

/-! ## Words -/

/-- A character of a word: a lower-case letter or a digit. -/
def isWordChar (c : Char) : Bool := c.isLower || c.isDigit

/-- A lower-case letter, and lower-case letters and digits behind it. -/
structure Word where
  first : Char
  rest : List Char
  isLower_first : first.isLower = true
  isWordChar_rest : ∀ c ∈ rest, isWordChar c = true

namespace Word

def chars (w : Word) : List Char := w.first :: w.rest

/-- The word with a capital in front. -/
def capitalized (w : Word) : List Char := w.first.toUpper :: w.rest

end Word

/-- A name of one or more words. -/
structure SnakeName where
  head : Word
  tail : List Word

namespace SnakeName

def words (name : SnakeName) : List Word := name.head :: name.tail

/-- The words with a separator between each two. -/
def joined (separator : String) (name : SnakeName) : String :=
  separator.intercalate (name.words.map fun w => String.ofList w.chars)

/-- The name as it is written. -/
def text (name : SnakeName) : String := name.joined "_"

/-- The words with a mark in front of each but the first. -/
def charsWith (mark : Char) (name : SnakeName) : List Char :=
  name.head.chars ++ name.tail.flatMap fun w => mark :: w.chars

/-- The characters of the name. -/
def chars (name : SnakeName) : List Char := name.charsWith '_'

theorem toList_joined {separator : String} {mark : Char} (h : separator.toList = [mark])
    (name : SnakeName) : (name.joined separator).toList = name.charsWith mark := by
  rw [joined, String.toList_intercalate, h, words, List.map_cons, List.map_cons,
    intercalate_mark_cons, String.toList_ofList, List.map_map, List.flatMap_map, charsWith]
  simp

theorem toList_text (name : SnakeName) : name.text.toList = name.chars :=
  toList_joined rfl name

end SnakeName

/-! ## Characters of words -/

section Characters

variable {c : Char}

theorem isWordChar_of_isLower (h : c.isLower = true) : isWordChar c = true := by
  rw [isWordChar, h, Bool.true_or]

theorem toNat_lt_of_isWordChar (h : isWordChar c = true) : c.toNat < 0x80 := by
  rcases Bool.or_eq_true_iff.1 h with h | h
  · exact Unicode.toNat_lt_of_isLower h
  · exact Unicode.toNat_lt_of_isDigit h

theorem isUpper_of_isWordChar (h : isWordChar c = true) : c.isUpper = false := by
  grind [isWordChar, Char.isLower, Char.isDigit, Char.isUpper]

theorem not_isUpper_of_isWordChar (h : isWordChar c = true) : ¬ Unicode.isUpper c = true := by
  rw [Unicode.isUpper_of_ascii (toNat_lt_of_isWordChar h), isUpper_of_isWordChar h]
  exact Bool.false_ne_true

theorem ne_of_isWordChar {mark : Char} (hmark : isWordChar mark = false)
    (h : isWordChar c = true) : c ≠ mark := by
  rintro rfl
  rw [hmark] at h
  cases h

theorem Word.isWordChar_first (w : Word) : isWordChar w.first = true :=
  isWordChar_of_isLower w.isLower_first

theorem Word.first_ne_underscore (w : Word) : w.first ≠ '_' :=
  ne_of_isWordChar (by decide) w.isWordChar_first

theorem Word.isWordChar_of_mem {w : Word} (h : c ∈ w.chars) : isWordChar c = true := by
  rcases List.mem_cons.1 h with rfl | h
  · exact w.isWordChar_first
  · exact w.isWordChar_rest c h

theorem Word.underscore_notMem (w : Word) : '_' ∉ w.chars := fun h =>
  absurd (isWordChar_of_mem h) (by decide)

/-- A name holds characters of words and underscores. -/
theorem SnakeName.mem_chars {name : SnakeName} (h : c ∈ name.chars) :
    c = '_' ∨ isWordChar c = true := by
  rcases List.mem_append.1 h with h | h
  · exact .inr (Word.isWordChar_of_mem h)
  · obtain ⟨w, -, h⟩ := List.mem_flatMap.1 h
    rcases List.mem_cons.1 h with rfl | h
    · exact .inl rfl
    · exact .inr (Word.isWordChar_of_mem h)

theorem SnakeName.toNat_lt_of_mem {name : SnakeName} (h : c ∈ name.chars) : c.toNat < 0x80 := by
  rcases mem_chars h with rfl | h
  · decide
  · exact toNat_lt_of_isWordChar h

theorem SnakeName.toLower_of_mem {name : SnakeName} (h : c ∈ name.chars) : c.toLower = c := by
  rcases mem_chars h with rfl | h
  · decide
  · exact Char.toLower_eq_of_not_isUpper (by simp [isUpper_of_isWordChar h])

end Characters

namespace RenameRule

/-! ## The snake form -/

/-- A text without capitals is its own snake form. -/
theorem snakeFrom_of_not_isUpper {cs : List Char} (before : Option Char)
    (h : ∀ c ∈ cs, ¬ Unicode.isUpper c = true) : snakeFrom before cs = cs := by
  induction cs generalizing before with
  | nil => rfl
  | cons c rest ih =>
    obtain ⟨hc, hrest⟩ := List.forall_mem_cons.1 h
    rw [snakeFrom, if_neg hc, ih _ hrest]

theorem snake_chars (name : SnakeName) : snake name.chars = name.chars := by
  refine snakeFrom_of_not_isUpper none fun c hc => ?_
  rcases SnakeName.mem_chars hc with rfl | hc
  · decide
  · exact not_isUpper_of_isWordChar hc

/-- The characters of a word are passed over. What is behind them is read behind a character that is
no underscore. -/
theorem snakeFrom_word {cs rest out : List Char} (hcs : ∀ c ∈ cs, isWordChar c = true)
    (hrest : ∀ before, before ≠ '_' → snakeFrom (some before) rest = out) {before : Char}
    (hbefore : before ≠ '_') : snakeFrom (some before) (cs ++ rest) = cs ++ out := by
  induction cs generalizing before with
  | nil => exact hrest before hbefore
  | cons c cs ih =>
    obtain ⟨hc, hcs⟩ := List.forall_mem_cons.1 hcs
    rw [List.cons_append, snakeFrom, if_neg (not_isUpper_of_isWordChar hc),
      ih hcs (ne_of_isWordChar (by decide) hc), List.cons_append]

/-- A capital begins a word, which is written in lower case. -/
theorem snakeFrom_toUpper {c : Char} (hc : c.isLower = true) (before : Option Char)
    (rest : List Char) :
    snakeFrom before (c.toUpper :: rest)
      = (if before.all (· == '_') then [] else ['_']) ++ c :: snakeFrom (some c) rest := by
  have hascii := Unicode.toNat_toUpper_lt (Unicode.toNat_lt_of_isLower hc)
  have hupper : Unicode.isUpper c.toUpper = true := by
    rw [Unicode.isUpper_of_ascii hascii, Char.isUpper_toUpper_eq_isAlpha, Char.isAlpha, hc,
      Bool.or_true]
  have hlower : Unicode.lower c.toUpper = [c] := by
    rw [Unicode.lower_of_ascii hascii, Char.toLower_toUpper_eq_toLower,
      Char.toLower_eq_of_not_isUpper (Char.not_isUpper_of_isLower hc)]
  rw [snakeFrom, if_pos hupper, hlower, List.getLast?_singleton, List.append_assoc]
  rfl

/-- **Words with a capital in front of each are found again.** By induction on the words, behind any
character but an underscore. -/
theorem snakeFrom_capitalized (words : List Word) {before : Char} (hbefore : before ≠ '_') :
    snakeFrom (some before) (words.flatMap Word.capitalized)
      = words.flatMap fun w => '_' :: w.chars := by
  induction words generalizing before with
  | nil => rfl
  | cons w words ih =>
    rw [List.flatMap_cons, Word.capitalized, List.cons_append, snakeFrom_toUpper w.isLower_first,
      if_neg (by simp [hbefore]),
      snakeFrom_word w.isWordChar_rest (fun _ => ih) w.first_ne_underscore]
    rfl

/-- The words of a name are found again behind its first character. -/
theorem snakeFrom_tail (name : SnakeName) :
    name.head.first ::
      snakeFrom (some name.head.first) (name.head.rest ++ name.tail.flatMap Word.capitalized)
      = name.chars := by
  rw [snakeFrom_word name.head.isWordChar_rest (fun _ => snakeFrom_capitalized name.tail)
    name.head.first_ne_underscore]
  rfl

/-! ## The camel forms -/

/-- What has no underscore is kept, and what is behind it stands behind a character if there was one
already or there is one now. -/
theorem camelFrom_append {cs : List Char} (h : '_' ∉ cs) (started : Bool) (rest : List Char) :
    camelFrom started false (cs ++ rest)
      = cs ++ camelFrom (started || !cs.isEmpty) false rest := by
  induction cs generalizing started with
  | nil => rw [List.isEmpty_nil, Bool.not_true, Bool.or_false, List.nil_append, List.nil_append]
  | cons c cs ih =>
    obtain ⟨hc, hcs⟩ := List.ne_and_not_mem_of_not_mem_cons h
    rw [List.cons_append, camelFrom, if_neg (Ne.symm hc), ih hcs, List.isEmpty_cons, Bool.true_or,
      Bool.not_false, Bool.or_true]
    rfl

/-- Each word behind an underscore gets a capital. -/
theorem camelFrom_words (words : List Word) :
    camelFrom true false (words.flatMap fun w => '_' :: w.chars)
      = words.flatMap Word.capitalized := by
  induction words with
  | nil => rfl
  | cons w words ih =>
    have hupper := Unicode.upper_of_ascii (toNat_lt_of_isWordChar w.isWordChar_first)
    have hrest : '_' ∉ w.rest := fun h => w.underscore_notMem (List.mem_cons_of_mem w.first h)
    rw [List.flatMap_cons, List.flatMap_cons, List.cons_append, camelFrom, if_pos rfl, Word.chars,
      List.cons_append, camelFrom, if_neg w.first_ne_underscore, if_pos rfl, hupper,
      camelFrom_append hrest, Bool.true_or, ih]
    rfl

/-- **The camel form joins the words**, and all but the first get a capital. -/
theorem camel_chars (name : SnakeName) :
    camel name.chars = name.head.chars ++ name.tail.flatMap Word.capitalized := by
  rw [camel, SnakeName.chars, SnakeName.charsWith, camelFrom_append name.head.underscore_notMem,
    Word.chars, List.isEmpty_cons, Bool.not_false, Bool.or_true, camelFrom_words]

/-- **In the Pascal form all words get a capital.** -/
theorem pascal_chars (name : SnakeName) :
    pascal name.chars = name.words.flatMap Word.capitalized := by
  have hupper := Unicode.upper_of_ascii (Unicode.toNat_lt_of_isLower name.head.isLower_first)
  rw [pascal, camel_chars, Word.chars, List.cons_append, SnakeName.words, List.flatMap_cons,
    Word.capitalized]
  show Unicode.upper name.head.first ++ _ = _
  rw [hupper]
  rfl

theorem snake_camel_chars (name : SnakeName) : snake (camel name.chars) = name.chars := by
  rw [camel_chars, snake, Word.chars, List.cons_append, snakeFrom,
    if_neg (not_isUpper_of_isWordChar name.head.isWordChar_first), snakeFrom_tail]

theorem snake_pascal_chars (name : SnakeName) : snake (pascal name.chars) = name.chars := by
  rw [pascal_chars, snake, SnakeName.words, List.flatMap_cons, Word.capitalized, List.cons_append,
    snakeFrom_toUpper name.head.isLower_first, snakeFrom_tail]
  rfl

/-! ## Other forms -/

/-- Underscores in place of hyphens. -/
def underscored (cs : List Char) : List Char :=
  cs.map fun c => if c = '-' then '_' else c

theorem uppercased_chars (name : SnakeName) :
    Unicode.uppercased name.chars = name.chars.map Char.toUpper :=
  Unicode.uppercased_of_ascii fun _ => SnakeName.toNat_lt_of_mem

theorem lowercase_chars (name : SnakeName) : Unicode.lowercase name.chars = name.chars := by
  rw [Unicode.lowercase_of_ascii fun _ => SnakeName.toNat_lt_of_mem]
  exact Unicode.map_eq_self fun c => SnakeName.toLower_of_mem

/-- The upper-case form of a name is read back by lower-casing it. -/
theorem toLower_toUpper_chars (name : SnakeName) :
    (name.chars.map Char.toUpper).map Char.toLower = name.chars := by
  rw [List.map_map]
  refine Unicode.map_eq_self fun c hc => ?_
  rw [Function.comp_apply, Char.toLower_toUpper_eq_toLower, SnakeName.toLower_of_mem hc]

theorem underscored_hyphenated {cs : List Char} (h : '-' ∉ cs) :
    underscored (hyphenated cs) = cs := by
  rw [underscored, hyphenated, List.map_map]
  refine Unicode.map_eq_self fun c hc => ?_
  have hne : c ≠ '-' := by
    rintro rfl
    exact h hc
  by_cases hc : c = '_'
  · simp [hc]
  · simp [hc, hne]

theorem hyphen_notMem_chars (name : SnakeName) : '-' ∉ name.chars := by
  intro h
  rcases SnakeName.mem_chars h with h | h
  · exact absurd h (by decide)
  · exact absurd h (by decide)

theorem hyphen_notMem_toUpper (name : SnakeName) : '-' ∉ name.chars.map Char.toUpper := by
  intro h
  -- Lower-casing keeps the hyphen and gives the name back.
  have hlower := List.mem_map_of_mem h (f := Char.toLower)
  rw [toLower_toUpper_chars] at hlower
  exact hyphen_notMem_chars name hlower

theorem hyphenated_of_notMem {cs : List Char} (h : '_' ∉ cs) : hyphenated cs = cs := by
  refine Unicode.map_eq_self fun c hc => if_neg ?_
  rintro rfl
  exact h hc

/-- **The kebab form has hyphens between the words.** -/
theorem hyphenated_chars (name : SnakeName) : hyphenated name.chars = name.charsWith '-' := by
  have hword : ∀ w : Word, hyphenated ('_' :: w.chars) = '-' :: w.chars := fun w => by
    rw [hyphenated, List.map_cons, if_pos rfl, ← hyphenated,
      hyphenated_of_notMem w.underscore_notMem]
  have happend : ∀ a b, hyphenated (a ++ b) = hyphenated a ++ hyphenated b := fun a b =>
    List.map_append
  rw [SnakeName.chars, SnakeName.charsWith, happend,
    hyphenated_of_notMem name.head.underscore_notMem, SnakeName.charsWith, hyphenated,
    List.map_flatMap]
  exact congrArg _ (List.flatMap_congr fun w _ => hword w)

/-! ## Reading back -/

/-- The name that a form was made from. -/
def readBack : RenameRule → List Char → List Char
  | lowerCase, cs => cs
  | upperCase, cs => cs.map Char.toLower
  | camelCase, cs => snake cs
  | pascalCase, cs => snake cs
  | snakeCase, cs => cs
  | screamingSnakeCase, cs => cs.map Char.toLower
  | kebabCase, cs => underscored cs
  | screamingKebabCase, cs => (underscored cs).map Char.toLower

/-- **Every form of a name is read back.** -/
theorem readBack_applyChars (rule : RenameRule) (name : SnakeName) :
    rule.readBack (rule.applyChars name.chars) = name.chars := by
  cases rule with
  | lowerCase => rw [applyChars, readBack, lowercase_chars]
  | upperCase => rw [applyChars, readBack, uppercased_chars, toLower_toUpper_chars]
  | camelCase => rw [applyChars, readBack, snake_camel_chars]
  | pascalCase => rw [applyChars, readBack, snake_pascal_chars]
  | snakeCase => rw [applyChars, readBack, snake_chars]
  | screamingSnakeCase =>
    rw [applyChars, readBack, snake_chars, uppercased_chars, toLower_toUpper_chars]
  | kebabCase =>
    rw [applyChars, readBack, snake_chars, underscored_hyphenated (hyphen_notMem_chars name)]
  | screamingKebabCase =>
    rw [applyChars, readBack, snake_chars, uppercased_chars,
      underscored_hyphenated (hyphen_notMem_toUpper name), toLower_toUpper_chars]

/-! ## Names as text -/

theorem apply_text (rule : RenameRule) (name : SnakeName) :
    rule.apply name.text = String.ofList (rule.applyChars name.chars) := by
  rw [apply, SnakeName.toList_text]

theorem apply_apply_text (outer inner : RenameRule) (name : SnakeName) :
    outer.apply (inner.apply name.text)
      = String.ofList (outer.applyChars (inner.applyChars name.chars)) := by
  rw [apply_text, apply, String.toList_ofList]

theorem ofList_chars (name : SnakeName) : String.ofList name.chars = name.text := by
  rw [← SnakeName.toList_text, String.ofList_toList]

/--
**Names of words are renamed without loss.**

* The snake form of such a name is the name, and so is that of its camel form and of its Pascal
  form. The kebab form of its camel form is its kebab form, and the screaming form of its camel form
  is its upper-case form.
* The camel form joins the words with a capital in front of all but the first, the Pascal form with
  a capital in front of each. The kebab form has hyphens for underscores, the upper-case form a
  capital for each letter.
* Two names with the same form by any rule are the same.
-/
theorem apply_snakeName :
    (∀ name : SnakeName,
      snakeCase.apply name.text = name.text ∧
      snakeCase.apply (camelCase.apply name.text) = name.text ∧
      snakeCase.apply (pascalCase.apply name.text) = name.text ∧
      kebabCase.apply (camelCase.apply name.text) = kebabCase.apply name.text ∧
      screamingSnakeCase.apply (camelCase.apply name.text) = upperCase.apply name.text ∧
      camelCase.apply name.text
        = String.ofList (name.head.chars ++ name.tail.flatMap Word.capitalized) ∧
      pascalCase.apply name.text = String.ofList (name.words.flatMap Word.capitalized) ∧
      kebabCase.apply name.text = name.joined "-" ∧
      upperCase.apply name.text = name.text.map Char.toUpper) ∧
    ∀ (rule : RenameRule) (a b : SnakeName),
      rule.apply a.text = rule.apply b.text ↔ a.text = b.text := by
  constructor
  · intro name
    have hjoined : (name.joined "-").toList = name.charsWith '-' :=
      SnakeName.toList_joined rfl name
    refine ⟨?_, ?_, ?_, ?_, ?_, ?_, ?_, ?_, ?_⟩
    · rw [apply_text, applyChars, snake_chars, ofList_chars]
    · rw [apply_apply_text, applyChars, applyChars, snake_camel_chars, ofList_chars]
    · rw [apply_apply_text, applyChars, applyChars, snake_pascal_chars, ofList_chars]
    · rw [apply_apply_text, apply_text, applyChars, applyChars, applyChars, snake_camel_chars,
        snake_chars]
    · rw [apply_apply_text, apply_text, applyChars, applyChars, applyChars, snake_camel_chars]
    · rw [apply_text, applyChars, camel_chars]
    · rw [apply_text, applyChars, pascal_chars]
    · rw [apply_text, applyChars, snake_chars, hyphenated_chars, ← hjoined, String.ofList_toList]
    · rw [apply_text, applyChars, uppercased_chars, ← SnakeName.toList_text, ← String.toList_map,
        String.ofList_toList]
  · intro rule a b
    constructor
    · intro h
      rw [apply_text, apply_text, String.ofList_inj] at h
      have hchars := congrArg rule.readBack h
      rw [readBack_applyChars, readBack_applyChars] at hchars
      rw [← ofList_chars, hchars, ofList_chars]
    · intro h
      rw [h]

example : camelCase.apply "page2_id" = "page2Id" ∧ snakeCase.apply "Page2Id" = "page2_id" := by
  decide

end RenameRule

end UrlQuery
