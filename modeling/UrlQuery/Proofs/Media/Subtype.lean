import UrlQuery.Media.Subtype
import UrlQuery.Proofs.Text.Mark

/-!
# What a subtype is

A malformed type has the empty subtype. Any other has a name between its first slash and its first
semicolon, and its subtype is what the first plus sign leaves of that name; it is the final suffix
just if there is no second plus sign (`subtype_of_name`).

So the subtype is the same whatever stands behind a semicolon (`subtype_parameters`), whatever main
type in front of the first slash, and whatever vendor in front of a plus sign (`subtype_of_suffix`,
`subtype_of_vendor`).
-/

namespace UrlQuery.Media

/-! ## Behind a mark -/

theorem after?_append_mark {mark : Char} {cs : List Char} (h : mark ∉ cs) (rest : List Char) :
    after? mark (cs ++ mark :: rest) = some rest := by
  rw [after?, List.dropWhile_append_of_pos (bne_of_notMem h), List.dropWhile_cons_of_neg (by simp)]

theorem after?_eq_none {mark : Char} {cs : List Char} (h : mark ∉ cs) : after? mark cs = none := by
  rw [after?, List.dropWhile_eq_nil_iff.2 (bne_of_notMem h)]

/-- With the first mark, and all in front of it, goes one mark. -/
theorem count_after? (mark : Char) (cs : List Char) :
    ((after? mark cs).getD cs).count mark = cs.count mark - 1 := by
  by_cases h : mark ∈ cs
  · obtain ⟨front, rest, rfl, hfront⟩ := List.eq_append_cons_of_mem h
    rw [after?_append_mark hfront, Option.getD_some, List.count_append, List.count_cons_self,
      List.count_eq_zero.2 hfront]
    omega
  · rw [after?_eq_none h, Option.getD_none, List.count_eq_zero.2 h]

/-! ## Subtypes -/

/-- The subtype behind the first slash, if no semicolon stands in front of it. -/
theorem subtype_slash {main : String} (hslash : '/' ∉ main.toList) (hsemicolon : ';' ∉ main.toList)
    {rest : String} (hrest : ';' ∉ rest.toList) :
    subtype (main ++ "/" ++ rest)
      = String.ofList ((after? '+' rest.toList).getD rest.toList) := by
  have hfree : ';' ∉ (main ++ "/" ++ rest).toList := by
    simp [hsemicolon, hrest]
  have hmain : (main ++ "/" ++ rest).toList = main.toList ++ '/' :: rest.toList := by
    simp
  rw [subtype, takeWhile_of_notMem hfree, hmain, after?_append_mark hslash]

/-- **Parameters do not count.** -/
theorem subtype_parameters (mediaType parameters : String) :
    subtype (mediaType ++ ";" ++ parameters) = subtype mediaType := by
  have hparameters : (mediaType ++ ";" ++ parameters).toList
      = mediaType.toList ++ ';' :: parameters.toList := by
    simp
  rw [subtype, subtype, hparameters, takeWhile_append_mark]

/-- **The main type does not count.** -/
theorem subtype_of_suffix {main suffix : String} (hslash : '/' ∉ main.toList)
    (hsemicolon : ';' ∉ main.toList) (hfree : ';' ∉ suffix.toList) (hplus : '+' ∉ suffix.toList) :
    subtype (main ++ "/" ++ suffix) = suffix := by
  rw [subtype_slash hslash hsemicolon hfree, after?_eq_none hplus, Option.getD_none,
    String.ofList_toList]

/-- **A vendor does not count.** -/
theorem subtype_of_vendor {main vendor suffix : String} (hslash : '/' ∉ main.toList)
    (hsemicolon : ';' ∉ main.toList) (hvendor : '+' ∉ vendor.toList)
    (hvendor' : ';' ∉ vendor.toList) (hfree : ';' ∉ suffix.toList) :
    subtype (main ++ "/" ++ (vendor ++ "+" ++ suffix)) = suffix := by
  have hrest : ';' ∉ (vendor ++ "+" ++ suffix).toList := by
    simp [hvendor', hfree]
  have hplus : (vendor ++ "+" ++ suffix).toList = vendor.toList ++ '+' :: suffix.toList := by
    simp
  rw [subtype_slash hslash hsemicolon hrest, hplus, after?_append_mark hvendor, Option.getD_some,
    String.ofList_toList]

/-! ## Malformed types -/

/-- There is no slash, or a semicolon stands in front of the first one. -/
def IsMalformed (mediaType : String) : Prop :=
  '/' ∉ mediaType.toList ∨
    ∃ front rest : String, mediaType = front ++ ";" ++ rest ∧ '/' ∉ front.toList

theorem isMalformed_iff {mediaType : String} :
    IsMalformed mediaType ↔ '/' ∉ mediaType.toList.takeWhile (· != ';') := by
  constructor
  · rintro (hslash | ⟨front, rest, rfl, hslash⟩) hmem
    · exact hslash ((List.takeWhile_prefix _).subset hmem)
    · have hparts : (front ++ ";" ++ rest).toList = front.toList ++ ';' :: rest.toList := by
        simp
      rw [hparts, takeWhile_append_mark] at hmem
      exact hslash ((List.takeWhile_prefix _).subset hmem)
  · intro hslash
    obtain ⟨front, tail, hparts, hfront, -, htail⟩ := exists_cut ';' mediaType.toList
    rw [hfront] at hslash
    rcases htail with rfl | ⟨rest, rfl⟩
    · rw [List.append_nil] at hparts
      exact .inl (hparts ▸ hslash)
    · refine .inr ⟨String.ofList front, String.ofList rest, ?_, by simpa using hslash⟩
      rw [← String.toList_inj, hparts]
      simp

instance (mediaType : String) : Decidable (IsMalformed mediaType) :=
  decidable_of_iff _ isMalformed_iff.symm

theorem subtype_of_isMalformed {mediaType : String} (h : IsMalformed mediaType) :
    subtype mediaType = "" := by
  rw [subtype, after?_eq_none (isMalformed_iff.1 h)]

/-! ## The name that a type gives -/

/-- The name stands between the first slash and the first semicolon, or the end if there is none. -/
def HasName (mediaType name : String) : Prop :=
  ∃ main tail : String, mediaType = main ++ "/" ++ name ++ tail ∧
    '/' ∉ main.toList ∧ ';' ∉ main.toList ∧ ';' ∉ name.toList ∧
    (tail = "" ∨ ∃ parameters, tail = ";" ++ parameters)

/-- **A type that is not malformed has a name.** -/
theorem exists_hasName {mediaType : String} (h : ¬ IsMalformed mediaType) :
    ∃ name, HasName mediaType name := by
  obtain ⟨front, tail, hparts, hfront, hfree, htail⟩ := exists_cut ';' mediaType.toList
  rw [isMalformed_iff, not_not, hfront] at h
  obtain ⟨main, name, rfl, hmain⟩ := List.eq_append_cons_of_mem h
  rw [List.mem_append, List.mem_cons, not_or, not_or] at hfree
  refine ⟨String.ofList name, String.ofList main, String.ofList tail, ?_, ?_, ?_, ?_, ?_⟩
  · rw [← String.toList_inj, hparts]
    simp
  · simpa using hmain
  · simpa using hfree.1
  · simpa using hfree.2.2
  · rcases htail with rfl | ⟨parameters, rfl⟩
    · exact .inl rfl
    · refine .inr ⟨String.ofList parameters, ?_⟩
      rw [← String.toList_inj]
      simp

theorem subtype_of_hasName {mediaType name : String} (h : HasName mediaType name) :
    subtype mediaType = String.ofList ((after? '+' name.toList).getD name.toList) := by
  obtain ⟨main, tail, rfl, hslash, hsemicolon, hname, htail⟩ := h
  rcases htail with rfl | ⟨parameters, rfl⟩
  · rw [String.append_empty, subtype_slash hslash hsemicolon hname]
  · rw [← String.append_assoc, subtype_parameters, subtype_slash hslash hsemicolon hname]

/-! ## Suffixes -/

/-- What the first plus sign leaves of a name: all behind it, and without one the whole name. -/
def IsFirstRest (name rest : String) : Prop :=
  '+' ∉ name.toList ∧ rest = name ∨
    ∃ vendor : String, '+' ∉ vendor.toList ∧ name = vendor ++ "+" ++ rest

/-- What all plus signs leave of a name. -/
def IsFinalSuffix (name suffix : String) : Prop :=
  '+' ∉ suffix.toList ∧ (name = suffix ∨ ∃ vendor : String, name = vendor ++ "+" ++ suffix)

theorem isFirstRest_after? (name : String) :
    IsFirstRest name (String.ofList ((after? '+' name.toList).getD name.toList)) := by
  by_cases h : '+' ∈ name.toList
  · obtain ⟨vendor, rest, hname, hvendor⟩ := List.eq_append_cons_of_mem h
    refine .inr ⟨String.ofList vendor, by simpa using hvendor, ?_⟩
    rw [hname, after?_append_mark hvendor, ← String.toList_inj, hname]
    simp
  · refine .inl ⟨h, ?_⟩
    rw [after?_eq_none h, Option.getD_none, String.ofList_toList]

/-- What the first plus sign leaves is the final suffix just if it holds no other. -/
theorem IsFirstRest.isFinalSuffix_iff {name rest : String} (h : IsFirstRest name rest) :
    IsFinalSuffix name rest ↔ '+' ∉ rest.toList := by
  constructor
  · exact fun hfinal => hfinal.1
  · intro hfree
    rcases h with ⟨-, rfl⟩ | ⟨vendor, -, hname⟩
    · exact ⟨hfree, .inl rfl⟩
    · exact ⟨hfree, .inr ⟨vendor, hname⟩⟩

/--
**What a subtype is.** It has no semicolon. It is empty for a malformed type; for any other it is
what the first plus sign leaves of the name, which has no plus sign, and is the final suffix, just if
the name has at most one.
-/
theorem subtype_of_name (mediaType : String) :
    ';' ∉ (subtype mediaType).toList ∧
    (IsMalformed mediaType ∧ subtype mediaType = "" ∨
      ¬ IsMalformed mediaType ∧ ∃ name, HasName mediaType name ∧
        IsFirstRest name (subtype mediaType) ∧
        ('+' ∉ (subtype mediaType).toList ↔ name.toList.count '+' ≤ 1) ∧
        (IsFinalSuffix name (subtype mediaType) ↔ name.toList.count '+' ≤ 1)) := by
  by_cases hmalformed : IsMalformed mediaType
  · have hempty := subtype_of_isMalformed hmalformed
    refine ⟨?_, .inl ⟨hmalformed, hempty⟩⟩
    rw [hempty]
    exact List.not_mem_nil
  · obtain ⟨name, hname⟩ := exists_hasName hmalformed
    have hsubtype := subtype_of_hasName hname
    have hrest : IsFirstRest name (subtype mediaType) := by
      rw [hsubtype]
      exact isFirstRest_after? name
    have hplus : '+' ∉ (subtype mediaType).toList ↔ name.toList.count '+' ≤ 1 := by
      rw [← List.count_eq_zero, hsubtype, String.toList_ofList, count_after?]
      omega
    refine ⟨?_, .inr ⟨hmalformed, name, hname, hrest, hplus, hrest.isFinalSuffix_iff.trans hplus⟩⟩
    obtain ⟨-, -, -, -, -, hfree, -⟩ := hname
    rcases hrest with ⟨-, heq⟩ | ⟨vendor, -, heq⟩
    · rwa [heq]
    · rw [heq] at hfree
      intro hmem
      exact hfree (by simp [hmem])

/-- Of two plus signs the second stays, with what stands in front of it. -/
theorem subtype_of_two_plus_signs :
    HasName "a/b+c+json" "b+c+json" ∧ IsFinalSuffix "b+c+json" "json" ∧
      subtype "a/b+c+json" = "c+json" ∧ '+' ∈ (subtype "a/b+c+json").toList :=
  ⟨⟨"a", "", rfl, by decide, by decide, by decide, .inl rfl⟩,
    ⟨by decide, .inr ⟨"b+c", rfl⟩⟩, by decide, by decide⟩

end UrlQuery.Media
