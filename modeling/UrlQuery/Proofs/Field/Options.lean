import UrlQuery.Field.Basic

/-!
# Options of tags

Of several options that mean the same thing, the first in the tag counts: the value of a key is
that of the first option of the key (`get?_eq_some_iff`), and the join style is that of the first
option whose key is the flag of a style (`joinStyle?_eq_some_iff_flag`).

Where no key stands twice, there is no first option of a key, and the order shows among the flags
of join styles alone (`sameAnswers_of_perm`).
-/

namespace UrlQuery

namespace TagOptions

/-! ## The first option that counts -/

/-- The first of the options whose keys pass a test. -/
def IsFirst (options : TagOptions) (test : String → Bool) (option : String × String) : Prop :=
  ∃ before after, options = before ++ option :: after ∧ test option.1 = true ∧
    ∀ other ∈ before, test other.1 = false

variable {options : TagOptions}

theorem get?_eq_some_iff {key text : String} :
    options.get? key = some text ↔ options.IsFirst (· == key) (key, text) := by
  rw [get?, List.lookup_eq_some_iff]
  constructor
  · rintro ⟨before, after, rfl, hbefore⟩
    refine ⟨before, after, rfl, beq_self_eq_true key, fun other hother => ?_⟩
    exact beq_eq_false_iff_ne.2 (bne_iff_ne.1 (hbefore other hother)).symm
  · rintro ⟨before, after, rfl, -, hbefore⟩
    refine ⟨before, after, rfl, fun other hother => ?_⟩
    exact bne_iff_ne.2 (beq_eq_false_iff_ne.1 (hbefore other hother)).symm

theorem get?_eq_none_iff {key : String} :
    options.get? key = none ↔ ∀ option ∈ options, option.1 ≠ key := by
  rw [get?, List.lookup_eq_none_iff]
  constructor
  · intro h option hoption
    exact (bne_iff_ne.1 (h option hoption)).symm
  · intro h option hoption
    exact bne_iff_ne.2 (h option hoption).symm

/-- The flag selects a join style. -/
def isJoinFlag (flag : String) : Bool := (JoinStyle.ofFlag? flag).isSome

theorem joinStyle?_eq_some_iff {style : JoinStyle} :
    options.joinStyle? = some style ↔
      ∃ flag text, options.IsFirst isJoinFlag (flag, text) ∧ JoinStyle.ofFlag? flag = some style := by
  rw [joinStyle?, List.findSome?_eq_some_iff]
  constructor
  · rintro ⟨before, ⟨flag, text⟩, after, rfl, hstyle, hbefore⟩
    refine ⟨flag, text, ⟨before, after, rfl, ?_, fun other hother => ?_⟩, hstyle⟩
    · rw [isJoinFlag, hstyle, Option.isSome_some]
    · rw [isJoinFlag, hbefore other hother, Option.isSome_none]
  · rintro ⟨flag, text, ⟨before, after, rfl, -, hbefore⟩, hstyle⟩
    refine ⟨before, (flag, text), after, rfl, hstyle, fun other hother => ?_⟩
    exact Option.isNone_iff_eq_none.1 (Option.isSome_eq_false_iff.1 (hbefore other hother))

/-- The flags join just if the join style is one that has a separator. -/
theorem seqLayout_eq_joined_iff {separator : String} :
    options.seqLayout = .joined separator ↔
      ∃ style, options.joinStyle? = some style ∧ style.separator? = some separator := by
  rw [seqLayout]
  cases hstyle : options.joinStyle? with
  | none =>
    constructor
    · intro h
      by_cases hnumbered : options.numbered = true
      · simp [hnumbered] at h
      · by_cases hindexed : options.indexed = true <;> simp [hnumbered, hindexed] at h
    · rintro ⟨_, hnone, _⟩
      cases hnone
  | some style => cases style <;> simp [JoinStyle.separator?]

end TagOptions

/-! ## Flags of join styles -/

namespace JoinStyle

/-- The flag of a join style. -/
def flag : JoinStyle → String
  | comma => "comma"
  | space => "space"
  | semicolon => "semicolon"
  | brackets => "brackets"

/-- The key is the flag of a join style. -/
def isFlag (key : String) : Bool :=
  [comma, space, semicolon, brackets].any fun style => style.flag == key

theorem isFlag_flag (style : JoinStyle) : isFlag style.flag = true := by
  cases style <;> decide

theorem isFlag_iff {key : String} : isFlag key = true ↔ ∃ style : JoinStyle, key = style.flag := by
  constructor
  · intro h
    obtain ⟨style, -, hstyle⟩ := List.any_eq_true.1 h
    exact ⟨style, (beq_iff_eq.1 hstyle).symm⟩
  · rintro ⟨style, rfl⟩
    exact style.isFlag_flag

theorem ofFlag?_flag (style : JoinStyle) : ofFlag? style.flag = some style := by
  cases style <;> rfl

/-- A key selects the style whose flag it is, and no other. -/
theorem ofFlag?_eq_some_iff {key : String} {style : JoinStyle} :
    ofFlag? key = some style ↔ key = style.flag := by
  constructor
  · intro h
    unfold ofFlag? at h
    split at h <;> cases h <;> rfl
  · rintro rfl
    exact style.ofFlag?_flag

theorem ofFlag?_eq_none_iff {key : String} : ofFlag? key = none ↔ isFlag key = false := by
  rw [← Bool.not_eq_true, isFlag_iff]
  constructor
  · rintro h ⟨style, rfl⟩
    rw [style.ofFlag?_flag] at h
    cases h
  · intro h
    cases hstyle : ofFlag? key with
    | none => rfl
    | some style => exact absurd ⟨style, ofFlag?_eq_some_iff.1 hstyle⟩ h

theorem isJoinFlag_eq (key : String) : TagOptions.isJoinFlag key = isFlag key := by
  rw [TagOptions.isJoinFlag]
  cases hstyle : ofFlag? key with
  | none => exact (ofFlag?_eq_none_iff.1 hstyle).symm
  | some style => rw [ofFlag?_eq_some_iff.1 hstyle, isFlag_flag]; rfl

end JoinStyle

namespace TagOptions

/-- The first option whose key is a flag decides on the join style. -/
theorem joinStyle?_eq_some_iff_flag {options : TagOptions} {style : JoinStyle} :
    options.joinStyle? = some style ↔
      ∃ text, options.IsFirst JoinStyle.isFlag (style.flag, text) := by
  rw [joinStyle?_eq_some_iff, ← funext JoinStyle.isJoinFlag_eq]
  constructor
  · rintro ⟨flag, text, hfirst, hstyle⟩
    rw [JoinStyle.ofFlag?_eq_some_iff.1 hstyle] at hfirst
    exact ⟨text, hfirst⟩
  · rintro ⟨text, hfirst⟩
    exact ⟨style.flag, text, hfirst, style.ofFlag?_flag⟩

theorem joinStyle?_eq_none_iff {options : TagOptions} :
    options.joinStyle? = none ↔ ∀ option ∈ options, JoinStyle.isFlag option.1 = false := by
  rw [joinStyle?, List.findSome?_eq_none_iff]
  simp only [JoinStyle.ofFlag?_eq_none_iff]

/-! ## Options in another order -/

/-- Both give the same answers to all that is asked of options. -/
structure SameAnswers (a b : TagOptions) : Prop where
  contains (key : String) : a.contains key = b.contains key
  get? (key : String) : a.get? key = b.get? key
  joinStyle? : a.joinStyle? = b.joinStyle?

/-- The options whose keys are flags of join styles, in their order. -/
def joinFlags (options : TagOptions) : TagOptions :=
  options.filter fun option => JoinStyle.isFlag option.1

/-- Where no key stands twice, each option has the value of its key. -/
theorem get?_eq_some_iff_mem {options : TagOptions} (h : (options.map (·.1)).Nodup)
    {key text : String} : options.get? key = some text ↔ (key, text) ∈ options := by
  rw [get?_eq_some_iff]
  constructor
  · rintro ⟨before, after, rfl, -, -⟩
    exact List.mem_append_right before List.mem_cons_self
  · intro hmem
    obtain ⟨before, after, rfl⟩ := List.append_of_mem hmem
    refine ⟨before, after, rfl, beq_self_eq_true key, fun other hother => ?_⟩
    -- An option of this key in front of it would have the key stand twice.
    rw [List.map_append, List.map_cons, List.nodup_append] at h
    exact beq_eq_false_iff_ne.2
      (h.2.2 other.1 (List.mem_map_of_mem hother) key List.mem_cons_self)

/-- Options that are no flags of join styles do not count for the join style. -/
theorem joinStyle?_joinFlags (options : TagOptions) :
    options.joinFlags.joinStyle? = options.joinStyle? := by
  unfold joinFlags
  induction options with
  | nil => rfl
  | cons option rest ih =>
    simp only [joinStyle?] at ih ⊢
    rw [List.filter_cons]
    cases hflag : JoinStyle.isFlag option.1 with
    | true => simp only [if_true, List.findSome?_cons, ih]
    | false =>
      rw [List.findSome?_cons, JoinStyle.ofFlag?_eq_none_iff.2 hflag]
      exact ih

/-- **Only the order of the flags of join styles shows**, where no key stands twice. -/
theorem sameAnswers_of_perm {a b : TagOptions} (hperm : a.Perm b) (hnodup : (b.map (·.1)).Nodup)
    (hflags : a.joinFlags = b.joinFlags) : a.SameAnswers b where
  contains _ := hperm.any_eq
  get? key := by
    have hnodup' : (a.map (·.1)).Nodup := (hperm.map (·.1)).nodup_iff.2 hnodup
    apply Option.ext
    intro text
    rw [get?_eq_some_iff_mem hnodup', get?_eq_some_iff_mem hnodup, hperm.mem_iff]
  joinStyle? := by rw [← joinStyle?_joinFlags a, hflags, joinStyle?_joinFlags]

end TagOptions

end UrlQuery
