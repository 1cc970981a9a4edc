/-!
# Sorted association lists

A finite map from texts as a list of pairs whose first parts ascend strictly. Two such lists with
the same members are equal.
-/

namespace UrlQuery.Assoc

variable {α : Type}

/-- The first parts are in strictly ascending order. -/
def Sorted (l : List (String × α)) : Prop :=
  l.Pairwise fun a b => a.1 < b.1

instance (l : List (String × α)) : Decidable (Sorted l) :=
  inferInstanceAs (Decidable (List.Pairwise _ _))

/--
Replaces what stands under `k` by `f` of it, where `none` is an absent key. An absent key is put in
its place.
-/
def alter (k : String) (f : Option α → α) : List (String × α) → List (String × α)
  | [] => [(k, f none)]
  | (k', x) :: rest =>
    if k < k' then (k, f none) :: (k', x) :: rest
    else if k = k' then (k', f (some x)) :: rest
    else (k', x) :: alter k f rest

/-- Puts `x` under `k`. -/
def insert (k : String) (x : α) (l : List (String × α)) : List (String × α) :=
  alter k (fun _ => x) l

/-- Takes out what stands under `k`. -/
def erase (k : String) (l : List (String × α)) : List (String × α) :=
  l.filter (·.1 ≠ k)

/-- Collects pairs; of several under one key the last counts. -/
def ofList (pairs : List (String × α)) : List (String × α) :=
  pairs.foldl (fun l pair => insert pair.1 pair.2 l) []

/-- `alter` adds no key but its own. -/
theorem fst_of_mem_alter {k : String} {f : Option α → α} :
    ∀ {l : List (String × α)} {e : String × α},
      e ∈ alter k f l → e.1 = k ∨ ∃ e' ∈ l, e.1 = e'.1
  | [], e, h => by
    simp only [alter, List.mem_singleton] at h
    exact .inl (by rw [h])
  | (k', x) :: rest, e, h => by
    unfold alter at h
    split at h
    · rcases List.mem_cons.1 h with rfl | h
      · exact .inl rfl
      · exact .inr ⟨e, h, rfl⟩
    · split at h
      · rcases List.mem_cons.1 h with rfl | h
        · exact .inr ⟨(k', x), by simp, rfl⟩
        · exact .inr ⟨e, by simp [h], rfl⟩
      · rcases List.mem_cons.1 h with rfl | h
        · exact .inr ⟨(k', x), by simp, rfl⟩
        · rcases fst_of_mem_alter h with h | ⟨e', he', h⟩
          · exact .inl h
          · exact .inr ⟨e', by simp [he'], h⟩

/-- `alter` keeps the order. -/
theorem Sorted.alter {k : String} {f : Option α → α} :
    ∀ {l : List (String × α)}, Sorted l → Sorted (Assoc.alter k f l)
  | [], _ => by simp [Sorted, Assoc.alter]
  | (k', x) :: rest, h => by
    have hc := List.pairwise_cons.1 h
    unfold Assoc.alter
    split
    · next hlt =>
      refine List.pairwise_cons.2 ⟨fun e he => ?_, h⟩
      rcases List.mem_cons.1 he with rfl | he
      · exact hlt
      · exact String.lt_trans hlt (hc.1 e he)
    · next hge =>
      split
      · exact List.pairwise_cons.2 ⟨hc.1, hc.2⟩
      · next hne =>
        have hgt : k' < k := Std.lt_of_le_of_ne (String.not_lt.1 hge) (Ne.symm hne)
        refine List.pairwise_cons.2 ⟨fun e he => ?_, Sorted.alter hc.2⟩
        rcases fst_of_mem_alter he with heq | ⟨e', he', heq⟩
        · exact heq ▸ hgt
        · exact heq ▸ hc.1 e' he'

/-- `erase` keeps the order. -/
theorem Sorted.erase {k : String} {l : List (String × α)} (h : Sorted l) :
    Sorted (Assoc.erase k l) :=
  h.filter _

/-! ## Looking up -/

/-- What stands under another key stays. -/
theorem lookup_alter_of_ne {j k : String} (h : j ≠ k) (f : Option α → α) :
    ∀ l : List (String × α), (alter k f l).lookup j = l.lookup j
  | [] => by simp [alter, List.lookup_cons, beq_false_of_ne h]
  | (k', x) :: rest => by
    unfold alter
    split
    · rw [List.lookup_cons, beq_false_of_ne h]
    · split
      · next hk => simp only [List.lookup_cons, ← hk, beq_false_of_ne h]
      · simp only [List.lookup_cons, lookup_alter_of_ne h f rest]

/-- A key below all others is absent. -/
theorem lookup_eq_none_of_lt {k : String} :
    ∀ {l : List (String × α)}, (∀ e ∈ l, k < e.1) → l.lookup k = none
  | [], _ => rfl
  | (k', x) :: rest, h => by
    have hlt : k < k' := h (k', x) (by simp)
    rw [List.lookup_cons, beq_false_of_ne (Std.ne_of_lt hlt)]
    exact lookup_eq_none_of_lt fun e he => h e (List.mem_cons_of_mem _ he)

/-- Under its own key `alter` leaves `f` of what stood there. -/
theorem lookup_alter_self {k : String} (f : Option α → α) :
    ∀ {l : List (String × α)}, Sorted l → (alter k f l).lookup k = some (f (l.lookup k))
  | [], _ => by simp [alter]
  | (k', x) :: rest, h => by
    have hc := List.pairwise_cons.1 h
    unfold alter
    split
    · next hlt =>
      have habsent : ((k', x) :: rest).lookup k = none :=
        lookup_eq_none_of_lt fun e he => by
          rcases List.mem_cons.1 he with rfl | he
          · exact hlt
          · exact String.lt_trans hlt (hc.1 e he)
      simp [habsent]
    · split
      · next hk => simp [hk]
      · next hne =>
        rw [List.lookup_cons, List.lookup_cons, beq_false_of_ne hne]
        exact lookup_alter_self f hc.2

/-- What stands under another key stays. -/
theorem lookup_erase_of_ne {j k : String} (h : j ≠ k) :
    ∀ l : List (String × α), (erase k l).lookup j = l.lookup j
  | [] => rfl
  | (k', x) :: rest => by
    have ih := lookup_erase_of_ne h rest
    by_cases hk : k' = k
    · subst hk
      simpa [erase, List.lookup_cons, beq_false_of_ne h] using ih
    · simp only [erase, ne_eq, hk, not_false_eq_true, decide_true, List.filter_cons_of_pos,
        List.lookup_cons]
      rw [← ih]
      rfl

/-- Nothing stands under an erased key. -/
theorem lookup_erase_self (k : String) :
    ∀ l : List (String × α), (erase k l).lookup k = none
  | [] => rfl
  | (k', x) :: rest => by
    have ih := lookup_erase_self k rest
    by_cases hk : k' = k
    · simpa [erase, hk] using ih
    · simpa [erase, hk, List.lookup_cons, beq_false_of_ne (Ne.symm hk)] using ih

end UrlQuery.Assoc
