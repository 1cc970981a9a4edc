import UrlQuery.Proofs.Field.Options
import UrlQuery.Proofs.Text.Mark

/-!
# Tags in writing

A name and options are written as a tag by `Tag.print`: a comma in front of each option, and a colon
between a key and its value. A key without a value is a flag, and has no colon unless it is empty.

Names without commas, keys without commas and colons, and values without commas are read back as
they were written, and these are all that is ever read (`isPrintable_iff`). So reading and writing
are inverse to each other, but for empty options and for colons that end an option
(`Tag.parse_print`).
-/

namespace UrlQuery

namespace Tag

/-! ## Reading -/

/-- The name and the options of a tag, as they stand between the commas. -/
def parts (raw : String) : List (List Char) := raw.toList.splitOn ','

/-- The tag that stands in a list of parts, whose first is the name. -/
theorem parse_of_parts {raw : String} {name : List Char} {tokens : List (List Char)}
    (hne : raw ≠ "-") (h : parts raw = name :: tokens) :
    parse raw = spec (String.ofList name)
      ((tokens.filter fun token => !token.isEmpty).map parseOption) := by
  rw [parts] at h
  rw [parse, if_neg hne, h]

theorem exists_parts (raw : String) : ∃ name tokens, parts raw = name :: tokens :=
  List.exists_cons_of_ne_nil (List.splitOn_ne_nil ',' raw.toList)

/-- Only one text is the tag that takes a field out. -/
theorem isSkip_parse_iff {raw : String} : (parse raw).isSkip = true ↔ raw = "-" := by
  by_cases hraw : raw = "-"
  · rw [hraw]
    exact ⟨fun _ => rfl, fun _ => rfl⟩
  · obtain ⟨name, tokens, hparts⟩ := exists_parts raw
    rw [parse_of_parts hraw hparts]
    exact ⟨nofun, fun h => absurd h hraw⟩

/-! ## Writing -/

/-- An option as it is written. -/
def printOption (option : String × String) : String :=
  if option.2.isEmpty then
    if option.1.isEmpty then ":" else option.1
  else option.1 ++ ":" ++ option.2

/-- A tag as it is written. A comma tells the name `-` from the tag that takes a field out. -/
def print : Tag → String
  | skip => "-"
  | spec name options =>
    if name = "-" ∧ options = [] then "-,"
    else String.intercalate "," (name :: options.map printOption)

/-- A name and options that can be told apart in writing. -/
structure IsPrintable (name : String) (options : TagOptions) : Prop where
  name_free : ',' ∉ name.toList
  key_free : ∀ option ∈ options, ',' ∉ option.1.toList ∧ ':' ∉ option.1.toList
  value_free : ∀ option ∈ options, ',' ∉ option.2.toList

/-! ### Options -/

theorem printOption_ne_nil (option : String × String) : (printOption option).toList ≠ [] := by
  obtain ⟨key, value⟩ := option
  unfold printOption
  split
  · split
    · nofun
    · next hkey => simpa using hkey
  · simp

theorem comma_notMem_printOption {option : String × String} (hkey : ',' ∉ option.1.toList)
    (hvalue : ',' ∉ option.2.toList) : ',' ∉ (printOption option).toList := by
  unfold printOption
  split
  · split
    · decide
    · exact hkey
  · simp [hkey, hvalue]

/-- **An option is read back as it was written**, if its key has no colon. -/
theorem parseOption_printOption {option : String × String} (h : ':' ∉ option.1.toList) :
    parseOption (printOption option).toList = option := by
  obtain ⟨key, value⟩ := option
  have hkey : ∀ c ∈ key.toList, (c != ':') = true := bne_of_notMem h
  unfold printOption
  split
  · next hvalue =>
    obtain rfl : value = "" := by simpa using hvalue
    split
    · next hempty =>
      obtain rfl : key = "" := by simpa using hempty
      rfl
    · rw [parseOption, ← List.append_nil key.toList, List.takeWhile_append_of_pos hkey,
        List.dropWhile_append_of_pos hkey]
      simp
  · have hwritten : (key ++ ":" ++ value).toList = key.toList ++ ':' :: value.toList := by simp
    rw [hwritten, parseOption, List.takeWhile_append_of_pos hkey,
      List.dropWhile_append_of_pos hkey]
    simp

/-- What is read of an option has no colon in its key, and no character that the option has not. -/
theorem parseOption_free {token : List Char} (h : ',' ∉ token) :
    (',' ∉ (parseOption token).1.toList ∧ ':' ∉ (parseOption token).1.toList) ∧
      ',' ∉ (parseOption token).2.toList := by
  simp only [parseOption, String.toList_ofList]
  refine ⟨⟨fun hmem => h (List.takeWhile_subset _ hmem), fun hmem => ?_⟩, fun hmem => ?_⟩
  · have hcolon := List.all_eq_true.1 List.all_takeWhile _ hmem
    simp at hcolon
  · exact h (List.dropWhile_subset _ (List.mem_of_mem_drop hmem))

/-! ### Tags -/

theorem parts_intercalate {name : String} {tokens : List String} (hname : ',' ∉ name.toList)
    (htokens : ∀ token ∈ tokens, ',' ∉ token.toList) :
    parts (String.intercalate "," (name :: tokens)) = (name :: tokens).map String.toList := by
  have hfree : ∀ part ∈ (name :: tokens).map String.toList, ',' ∉ part :=
    List.forall_mem_map.2 (List.forall_mem_cons.2 ⟨hname, htokens⟩)
  rw [parts, String.toList_intercalate]
  exact List.splitOn_intercalate ',' hfree (by simp)

/-- The parts of a tag as it is written. Behind the name `-` alone stands an empty part. -/
theorem parts_print {name : String} {options : TagOptions} (h : IsPrintable name options) :
    ∃ tokens, parts (spec name options).print = name.toList :: tokens ∧
      (tokens.filter fun token => !token.isEmpty)
        = (options.map printOption).map String.toList := by
  have htokens : ∀ token ∈ options.map printOption, ',' ∉ token.toList :=
    List.forall_mem_map.2 fun option hoption =>
      comma_notMem_printOption (h.key_free option hoption).1 (h.value_free option hoption)
  rw [print]
  split
  · next hdash =>
    obtain ⟨rfl, rfl⟩ := hdash
    exact ⟨[[]], by decide, rfl⟩
  · refine ⟨_, parts_intercalate h.name_free htokens, List.filter_eq_self.2 ?_⟩
    rw [List.map_map]
    exact List.forall_mem_map.2 fun option _ => by simpa using printOption_ne_nil option

/-- What is written with a name is not the tag that takes a field out. -/
theorem print_ne_dash {name : String} {options : TagOptions} (h : IsPrintable name options) :
    (spec name options).print ≠ "-" := by
  intro hdash
  obtain ⟨tokens, hparts, hfilter⟩ := parts_print h
  have hdashParts : parts "-" = [['-']] := by decide
  rw [hdash, hdashParts] at hparts
  obtain ⟨hname, rfl⟩ := List.cons.inj hparts
  have hname : name = "-" := String.toList_inj.1 hname.symm
  have hoptions : options = [] := by simpa using hfilter
  rw [print, if_pos ⟨hname, hoptions⟩] at hdash
  exact absurd hdash (by decide)

/-- **A name and options are read back as they were written.** -/
theorem parse_print_of_isPrintable {name : String} {options : TagOptions}
    (h : IsPrintable name options) : parse (spec name options).print = spec name options := by
  obtain ⟨tokens, hparts, hfilter⟩ := parts_print h
  have hread : ∀ option ∈ options, parseOption (printOption option).toList = option :=
    fun option hoption => parseOption_printOption (h.key_free option hoption).2
  have hoptions : ((options.map printOption).map String.toList).map parseOption = options := by
    rw [List.map_map, List.map_map]
    exact (List.map_congr_left hread).trans (List.map_id options)
  rw [parse_of_parts (print_ne_dash h) hparts, hfilter, hoptions, String.ofList_toList]

/-- **What can be written is all that is read.** -/
theorem isPrintable_iff {name : String} {options : TagOptions} :
    IsPrintable name options ↔ ∃ raw, parse raw = spec name options := by
  constructor
  · intro h
    exact ⟨_, parse_print_of_isPrintable h⟩
  · rintro ⟨raw, hraw⟩
    have hne : raw ≠ "-" := by
      rintro rfl
      cases hraw
    obtain ⟨first, tokens, hparts⟩ := exists_parts raw
    rw [parse_of_parts hne hparts] at hraw
    obtain ⟨rfl, rfl⟩ := Tag.spec.inj hraw
    have hfree : ∀ part ∈ first :: tokens, ',' ∉ part := by
      intro part hpart
      rw [← hparts] at hpart
      exact notMem_of_mem_splitOn hpart
    have hoptions : ∀ token ∈ tokens.filter fun token => !token.isEmpty, ',' ∉ token :=
      fun token htoken => hfree token (List.mem_cons_of_mem first (List.mem_filter.1 htoken).1)
    exact {
      name_free := by
        rw [String.toList_ofList]
        exact hfree first List.mem_cons_self
      key_free := List.forall_mem_map.2 fun token htoken =>
        (parseOption_free (hoptions token htoken)).1
      value_free := List.forall_mem_map.2 fun token htoken =>
        (parseOption_free (hoptions token htoken)).2 }

end Tag

/--
**Reading a tag inverts writing it.**

* A name without commas and options whose keys have no commas and no colons, and whose values have
  no commas, are read back as they were written. The join style is that of the first option whose
  key is a flag of one, and the value of a key is that of the first option of the key.
* Whatever text a tag was read from, it is the same when it is written and read again.
* One text alone is read as the tag that takes a field out.
-/
theorem Tag.parse_print :
    (∀ (name : String) (options : TagOptions), IsPrintable name options →
      let tag := parse (spec name options).print
      tag.isSkip = false ∧ tag.name = name ∧ tag.options = options ∧
        (∀ style : JoinStyle, tag.options.joinStyle? = some style ↔
          ∃ value, options.IsFirst JoinStyle.isFlag (style.flag, value)) ∧
        (tag.options.joinStyle? = none ↔ ∀ option ∈ options, JoinStyle.isFlag option.1 = false) ∧
        (∀ key value : String, tag.options.get? key = some value ↔
          options.IsFirst (· == key) (key, value)) ∧
        ∀ key : String, tag.options.get? key = none ↔ ∀ option ∈ options, option.1 ≠ key) ∧
    (∀ raw : String, parse (parse raw).print = parse raw) ∧
    ∀ raw : String, (parse raw).isSkip = true ↔ raw = "-" := by
  refine ⟨fun name options h => ?_, fun raw => ?_, fun raw => isSkip_parse_iff⟩
  · intro tag
    have htag : tag = spec name options := parse_print_of_isPrintable h
    rw [htag]
    exact ⟨rfl, rfl, rfl, fun _ => TagOptions.joinStyle?_eq_some_iff_flag,
      TagOptions.joinStyle?_eq_none_iff, fun _ _ => TagOptions.get?_eq_some_iff,
      fun _ => TagOptions.get?_eq_none_iff⟩
  · cases hraw : parse raw with
    | skip => rfl
    | spec name options => exact parse_print_of_isPrintable (isPrintable_iff.2 ⟨raw, hraw⟩)

/-- A keyed flag, an empty option, and a key that stands twice, behind the name `-`. -/
theorem Tag.parse_print_repeated :
    let options : TagOptions :=
      [("layout", "%H:%M"), ("", ""), ("space", "x"), ("", ":"), ("comma", ""), ("layout", "")]
    let tag := parse (spec "-" options).print
    IsPrintable "-" options ∧ (spec "-" options).print = "-,layout:%H:%M,:,space:x,::,comma,layout" ∧
      tag.isSkip = false ∧ tag.name = "-" ∧ tag.options = options ∧
      tag.options.joinStyle? = some .space ∧ tag.options.get? "layout" = some "%H:%M" ∧
      (spec "-" []).print = "-," ∧ parse (parse "a,,:,b:").print = parse "a,,:,b:" := by
  intro options tag
  have h : IsPrintable "-" options := by
    refine ⟨by decide, ?_, ?_⟩
    · simp only [options, List.forall_mem_cons]
      decide
    · simp only [options, List.forall_mem_cons]
      decide
  obtain ⟨hskip, hname, hoptions, hstyle, -, hget, -⟩ := Tag.parse_print.1 "-" options h
  refine ⟨h, by decide, hskip, hname, hoptions, (hstyle .space).2 ?_, (hget _ _).2 ?_, rfl,
    Tag.parse_print.2.1 _⟩
  · exact ⟨"x", [("layout", "%H:%M"), ("", "")], _, rfl, by decide, by decide⟩
  · exact ⟨[], _, rfl, by decide, nofun⟩

end UrlQuery
