import Mathlib.Data.List.TakeWhile

/-!
# Texts and marks

A mark ends the part of a text in front of it. A part without the mark is passed over as a whole
(`bne_of_notMem`), and what stands behind a mark is not seen in front of the first
(`takeWhile_append_mark`), so a text is cut at its first mark (`exists_cut`). No part between two
marks has one (`notMem_of_mem_splitOn`). Parts are joined by a mark in front of each but the first
(`intercalate_mark_cons`).
-/

namespace UrlQuery

section Mark

variable {α : Type} [BEq α] [LawfulBEq α] {mark : α}

theorem bne_of_notMem {part : List α} (h : mark ∉ part) : ∀ x ∈ part, (x != mark) = true := by
  intro x hx
  rw [bne_iff_ne]
  rintro rfl
  exact h hx

theorem takeWhile_of_notMem {part : List α} (h : mark ∉ part) :
    part.takeWhile (· != mark) = part :=
  List.takeWhile_eq_self_iff.2 (bne_of_notMem h)

theorem takeWhile_append_mark (mark : α) (front rest : List α) :
    (front ++ mark :: rest).takeWhile (· != mark) = front.takeWhile (· != mark) := by
  induction front with
  | nil => simp
  | cons x front ih => rw [List.cons_append, List.takeWhile_cons, List.takeWhile_cons, ih]

/-- The part in front of the first mark, and the rest, which begins with the mark or is empty. -/
theorem exists_cut (mark : α) (l : List α) :
    ∃ front tail, l = front ++ tail ∧ l.takeWhile (· != mark) = front ∧ mark ∉ front ∧
      (tail = [] ∨ ∃ rest, tail = mark :: rest) := by
  by_cases h : mark ∈ l
  · obtain ⟨front, rest, rfl, hfront⟩ := List.eq_append_cons_of_mem h
    refine ⟨front, mark :: rest, rfl, ?_, hfront, .inr ⟨rest, rfl⟩⟩
    rw [takeWhile_append_mark, takeWhile_of_notMem hfront]
  · exact ⟨l, [], (List.append_nil l).symm, takeWhile_of_notMem h, h, .inl rfl⟩

theorem notMem_of_mem_splitOn {part : List α} :
    ∀ {l : List α}, part ∈ l.splitOn mark → mark ∉ part
  | [], h => by
    rw [List.splitOn_nil, List.mem_singleton] at h
    rw [h]
    exact List.not_mem_nil
  | x :: l, h => by
    rw [List.splitOn_cons_eq_if_modifyHead] at h
    by_cases hx : (x == mark) = true
    · rw [if_pos hx] at h
      rcases List.mem_cons.1 h with rfl | h
      · exact List.not_mem_nil
      · exact notMem_of_mem_splitOn h
    · rw [if_neg hx] at h
      -- The first part gets one element more, and the others stay.
      obtain ⟨first, rest, hparts⟩ := List.exists_cons_of_ne_nil (List.splitOn_ne_nil mark l)
      rw [hparts, List.modifyHead_cons] at h
      rcases List.mem_cons.1 h with rfl | h
      · have hfirst : mark ∉ first :=
          notMem_of_mem_splitOn (by rw [hparts]; exact List.mem_cons_self)
        intro hmem
        rcases List.mem_cons.1 hmem with rfl | hmem
        · exact hx (beq_self_eq_true _)
        · exact hfirst hmem
      · exact notMem_of_mem_splitOn (by rw [hparts]; exact List.mem_cons_of_mem first h)

end Mark

/-- Parts with a mark between each two are the first, and a mark in front of each other. -/
theorem intercalate_mark_cons {α : Type} (mark : α) (first : List α) (rest : List (List α)) :
    [mark].intercalate (first :: rest) = first ++ rest.flatMap fun part => mark :: part := by
  induction rest generalizing first with
  | nil => simp
  | cons part rest ih =>
    rw [List.intercalate_cons_cons, ih part, List.flatMap_cons]
    simp

end UrlQuery
