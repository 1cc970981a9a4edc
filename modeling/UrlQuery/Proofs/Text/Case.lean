import Mathlib
import UrlQuery.Unicode.Case

/-!
# Letter case in ASCII

A character of ASCII has one character as its lower-case and its upper-case form, and so a text of
them is mapped character by character (`lowercase_of_ascii`, `uppercased_of_ascii`). The forms are
ASCII again and have no letter of the other case (`of_mem_lowercase`, `of_mem_uppercased`). What is
no letter is the form of itself alone (`toLower_eq_iff`, `toUpper_eq_iff`).
-/

namespace UrlQuery.Unicode

variable {c : Char} {cs : List Char}

/-! ## Characters -/

theorem toNat_lt_of_isLower (h : c.isLower = true) : c.toNat < 0x80 := by
  simp only [Char.isLower, Bool.and_eq_true, decide_eq_true_eq, UInt32.le_iff_toNat_le] at h
  exact lt_of_le_of_lt h.2 (by decide)

theorem toNat_lt_of_isDigit (h : c.isDigit = true) : c.toNat < 0x80 := by
  simp only [Char.isDigit, Bool.and_eq_true, decide_eq_true_eq, UInt32.le_iff_toNat_le] at h
  exact lt_of_le_of_lt h.2 (by decide)

theorem toNat_toUpper_lt (h : c.toNat < 0x80) : c.toUpper.toNat < 0x80 := by
  by_cases hlower : c.isLower = true
  · rw [Char.toUpper_eq_of_isLower hlower, Char.toNat_ofNat]
    split
    · omega
    · decide
  · rwa [Char.toUpper_eq_of_not_isLower hlower]

theorem toNat_toLower_lt (h : c.toNat < 0x80) : c.toLower.toNat < 0x80 := by
  by_cases hupper : c.isUpper = true
  · have hlower : c.toLower.isLower = true := by
      rw [Char.isLower_toLower_eq_isAlpha, Char.isAlpha, hupper, Bool.true_or]
    exact toNat_lt_of_isLower hlower
  · rwa [Char.toLower_eq_of_not_isUpper hupper]

theorem toLower_eq_self (h : c.isAlpha = false) : c.toLower = c := by
  rw [Char.isAlpha, Bool.or_eq_false_iff] at h
  exact Char.toLower_eq_of_not_isUpper (by simp [h.1])

theorem toUpper_eq_self (h : c.isAlpha = false) : c.toUpper = c := by
  rw [Char.isAlpha, Bool.or_eq_false_iff] at h
  exact Char.toUpper_eq_of_not_isLower (by simp [h.2])

theorem toLower_eq_iff {mark : Char} (hmark : mark.isAlpha = false) :
    c.toLower = mark ↔ c = mark := by
  constructor
  · rintro rfl
    rw [Char.isAlpha_toLower_eq_isAlpha] at hmark
    exact (toLower_eq_self hmark).symm
  · rintro rfl
    exact toLower_eq_self hmark

theorem toUpper_eq_iff {mark : Char} (hmark : mark.isAlpha = false) :
    c.toUpper = mark ↔ c = mark := by
  constructor
  · rintro rfl
    rw [Char.isAlpha_toUpper_eq_isAlpha] at hmark
    exact (toUpper_eq_self hmark).symm
  · rintro rfl
    exact toUpper_eq_self hmark

theorem isUpper_of_ascii (h : c.toNat < 0x80) : isUpper c = c.isUpper := if_pos h

theorem lower_of_ascii (h : c.toNat < 0x80) : lower c = [c.toLower] := if_pos h

theorem upper_of_ascii (h : c.toNat < 0x80) : upper c = [c.toUpper] := if_pos h

/-! ## Texts -/

/-- A text whose characters are all kept is kept. -/
theorem map_eq_self {f : Char → Char} (h : ∀ c ∈ cs, f c = c) : cs.map f = cs :=
  (List.map_congr_left h).trans (List.map_id cs)

theorem lowerFrom_of_ascii (before : List Char) (h : ∀ c ∈ cs, c.toNat < 0x80) :
    lowerFrom before cs = cs.map Char.toLower := by
  induction cs generalizing before with
  | nil => rfl
  | cons c rest ih =>
    obtain ⟨hc, hrest⟩ := List.forall_mem_cons.1 h
    have hsigma : c ≠ 'Σ' := by
      rintro rfl
      exact absurd hc (by decide)
    rw [lowerFrom, if_neg hsigma, lower_of_ascii hc, ih _ hrest]
    rfl

theorem lowercase_of_ascii (h : ∀ c ∈ cs, c.toNat < 0x80) : lowercase cs = cs.map Char.toLower :=
  lowerFrom_of_ascii [] h

theorem uppercased_of_ascii (h : ∀ c ∈ cs, c.toNat < 0x80) :
    uppercased cs = cs.map Char.toUpper := by
  induction cs with
  | nil => rfl
  | cons c rest ih =>
    obtain ⟨hc, hrest⟩ := List.forall_mem_cons.1 h
    rw [uppercased, List.flatMap_cons, upper_of_ascii hc, ← uppercased, ih hrest]
    rfl

theorem of_mem_lowercase (h : ∀ c ∈ cs, c.toNat < 0x80) (hc : c ∈ lowercase cs) :
    c.toNat < 0x80 ∧ c.isUpper = false := by
  rw [lowercase_of_ascii h] at hc
  obtain ⟨d, hd, rfl⟩ := List.mem_map.1 hc
  exact ⟨toNat_toLower_lt (h d hd), Char.isUpper_toLower_eq_false d⟩

theorem of_mem_uppercased (h : ∀ c ∈ cs, c.toNat < 0x80) (hc : c ∈ uppercased cs) :
    c.toNat < 0x80 ∧ c.isLower = false := by
  rw [uppercased_of_ascii h] at hc
  obtain ⟨d, hd, rfl⟩ := List.mem_map.1 hc
  exact ⟨toNat_toUpper_lt (h d hd), Char.isLower_toUpper_eq_false d⟩

end UrlQuery.Unicode
