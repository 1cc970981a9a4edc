/-!
# Digits of numbers

A number is written in decimal digits: at least one, and nothing else. No other number has the same
(`natDigits_injective`).
-/

namespace UrlQuery

theorem toList_natDigits (n : Nat) : (toString n).toList = Nat.toDigits 10 n := by
  rw [Nat.toString_eq_repr, Nat.toList_repr]

theorem isDigit_of_mem_natDigits {n : Nat} {c : Char} (h : c ∈ (toString n).toList) :
    c.isDigit = true := by
  rw [toList_natDigits] at h
  exact Nat.isDigit_of_mem_toDigits (by decide) (by decide) h

theorem notMem_natDigits {c : Char} (h : c.isDigit = false) (n : Nat) :
    c ∉ (toString n).toList := by
  intro hmem
  rw [isDigit_of_mem_natDigits hmem] at h
  cases h

theorem natDigits_ne_empty (n : Nat) : toString n ≠ "" := by
  intro h
  have hlist := congrArg String.toList h
  rw [toList_natDigits] at hlist
  exact Nat.toDigits_ne_nil hlist

theorem natDigits_injective {m n : Nat} (h : toString m = toString n) : m = n := by
  have hlist := congrArg String.toList h
  rw [toList_natDigits, toList_natDigits] at hlist
  have hread := congrArg (Nat.ofDigitChars 10 · 0) hlist
  simpa only [Nat.ofDigitChars_toDigits (b := 10) (by decide) (by decide)] using hread

end UrlQuery
