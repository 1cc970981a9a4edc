import UrlQuery.Proofs.Params.Laws

/-!
# Keys with values

Parameters are `Valued` if no key is present without a value. Adding, setting and removing keep
them so (`Edited.valued`), and so does merging (`Valued.merge`). Valued parameters are determined
by the values of each key (`Valued.eq_of_getAll`), so what pairs make is determined by the values
that they hold under each key (`ofPairs_eq_iff`). Pairs whose keys all differ make an entry each
(`entries_ofPairs_perm`).
-/

namespace UrlQuery

/-- A change under a key that is absent puts it in, and nothing else. -/
theorem Assoc.alter_perm {α : Type} {k : String} (f : Option α → α) :
    ∀ {l : List (String × α)}, (∀ e ∈ l, e.1 ≠ k) → (alter k f l).Perm ((k, f none) :: l)
  | [], _ => .refl _
  | (k', x) :: rest, h => by
    obtain ⟨hne, hrest⟩ := List.forall_mem_cons.1 h
    unfold alter
    split
    · exact .refl _
    · rw [if_neg (Ne.symm hne)]
      exact ((alter_perm f hrest).cons _).trans (.swap _ _ _)

namespace Params

/-- Each key that is present has a value. -/
def Valued (p : Params) : Prop :=
  ∀ k, p.find? k ≠ some []

/-! ## What keeps parameters valued -/

theorem valued_empty : empty.Valued := fun _ => nofun

theorem find?_erase (p : Params) (j k : String) :
    (p.erase k).find? j = if j = k then none else p.find? j := by
  unfold find?
  split
  · next h => rw [h, erase, Assoc.lookup_erase_self]
  · next h => rw [erase, Assoc.lookup_erase_of_ne h]

theorem Valued.alter {p : Params} (h : p.Valued) (k : String) {f : List String → List String}
    (hf : ∀ vs, f vs ≠ []) : (p.alter k f).Valued := by
  intro j
  rw [find?_alter]
  split
  · simpa using hf _
  · exact h j

theorem Valued.add {p : Params} (h : p.Valued) (k v : String) : (p.add k v).Valued :=
  h.alter k fun _ => List.append_ne_nil_of_right_ne_nil _ (List.cons_ne_nil v [])

theorem Valued.set {p : Params} (h : p.Valued) (k v : String) : (p.set k v).Valued :=
  h.alter k fun _ => List.cons_ne_nil v []

theorem Valued.erase {p : Params} (h : p.Valued) (k : String) : (p.erase k).Valued := by
  intro j
  rw [find?_erase]
  split
  · exact nofun
  · exact h j

/-- What adding, setting and removing, in any order, make of parameters. -/
inductive Edited (p : Params) : Params → Prop where
  | refl : Edited p p
  | add {q : Params} (k v : String) (h : Edited p q) : Edited p (q.add k v)
  | set {q : Params} (k v : String) (h : Edited p q) : Edited p (q.set k v)
  | erase {q : Params} (k : String) (h : Edited p q) : Edited p (q.erase k)

/-- **No edit leaves a key without a value.** -/
theorem Edited.valued {p q : Params} (h : Edited p q) (hp : p.Valued) : q.Valued := by
  induction h with
  | refl => exact hp
  | add k v _ ih => exact ih.add k v
  | set k v _ ih => exact ih.set k v
  | erase k _ ih => exact ih.erase k

theorem Valued.addPairs {p : Params} (h : p.Valued) (pairs : List (String × String)) :
    (p.addPairs pairs).Valued := by
  induction pairs generalizing p with
  | nil => exact h
  | cons kv rest ih => exact ih (h.add kv.1 kv.2)

/-- Lists of values that are not empty are collected to valued parameters. -/
theorem valued_ofLists {entries : List Entry} (h : ∀ e ∈ entries, e.2 ≠ []) :
    (ofLists entries).Valued := by
  have hfold : ∀ (entries : List Entry) (p : Params), (∀ e ∈ entries, e.2 ≠ []) → p.Valued →
      (entries.foldl (fun p e => p.alter e.1 fun _ => e.2) p).Valued := by
    intro entries
    induction entries with
    | nil => exact fun _ _ hp => hp
    | cons e rest ih =>
      intro p h hp
      obtain ⟨he, hrest⟩ := List.forall_mem_cons.1 h
      exact ih _ hrest (hp.alter e.1 fun _ => he)
  exact hfold entries empty h valued_empty

theorem Valued.merge {p q : Params} (hp : p.Valued) (hq : q.Valued) : (p.merge q).Valued := by
  intro k
  rw [find?_merge]
  cases hpk : p.find? k with
  | none => rw [Option.merge_none_left]; exact hq k
  | some us =>
    have hus : us ≠ [] := fun h => hp k (hpk.trans (congrArg some h))
    cases q.find? k with
    | none => simpa using hus
    | some vs => simpa [Option.merge] using fun h => absurd h hus

theorem valued_ofPairs (pairs : List (String × String)) : (ofPairs pairs).Valued :=
  valued_empty.addPairs pairs

/-- In sorted entries each stands under its key. -/
theorem find?_of_mem {p : Params} {e : Entry} (he : e ∈ p.entries) : p.find? e.1 = some e.2 := by
  obtain ⟨before, after, hsplit⟩ := List.append_of_mem he
  have hsorted := p.sorted
  rw [Assoc.Sorted, hsplit, List.pairwise_append] at hsorted
  refine List.lookup_eq_some_iff.2 ⟨before, after, hsplit, fun e' he' => ?_⟩
  exact bne_iff_ne.2 (Std.ne_of_lt (hsorted.2.2 e' he' e List.mem_cons_self)).symm

/-- There are no pairs just if no key has a value. -/
theorem toPairs_eq_nil_iff_getAll {p : Params} : p.toPairs = [] ↔ ∀ k, p.getAll k = [] := by
  rw [toPairs, List.flatMap_eq_nil_iff]
  constructor
  · intro h k
    unfold getAll
    cases hk : p.find? k with
    | none => rfl
    | some vs =>
      obtain ⟨before, after, hsplit, -⟩ := List.lookup_eq_some_iff.1 hk
      simpa using h (k, vs) (by rw [hsplit]; simp)
  · intro h e he
    have hvalues := h e.1
    rw [getAll, find?_of_mem he] at hvalues
    simpa using hvalues

/-- Valued parameters are their own keys with values. -/
theorem Valued.compact_eq {p : Params} (h : p.Valued) : p.compact = p := by
  rw [compact_eq_self_iff]
  intro e he hnil
  apply h e.1
  rw [find?_of_mem he, hnil]

/-- Of all parameters only the valued ones are their own keys with values. -/
theorem valued_iff_compact {p : Params} : p.Valued ↔ p.compact = p := by
  refine ⟨Valued.compact_eq, fun h => ?_⟩
  rw [← h, ← ofPairs_toPairs]
  exact valued_ofPairs _

/-- Parameters are valued just if a key is present only together with a first value. -/
theorem valued_iff_contains {p : Params} :
    p.Valued ↔ ∀ k, p.contains k = (p.get? k).isSome := by
  refine forall_congr' fun k => ?_
  rw [contains, get?, getAll]
  cases p.find? k with
  | none => simp
  | some vs => cases vs <;> simp

theorem isEmpty_iff {p : Params} : p.isEmpty = true ↔ p = empty := by
  rw [isEmpty, List.isEmpty_iff, Params.ext_iff]
  rfl

/-! ## Equality by values -/

/-- Valued parameters are determined by the values of each key. -/
theorem Valued.eq_of_getAll {p q : Params} (hp : p.Valued) (hq : q.Valued)
    (h : ∀ k, p.getAll k = q.getAll k) : p = q := by
  refine eq_of_find? fun k => ?_
  have hk := h k
  unfold getAll at hk
  cases hpk : p.find? k with
  | none =>
    cases hqk : q.find? k with
    | none => rfl
    | some vs =>
      rw [hpk, hqk] at hk
      exact absurd (hqk.trans (congrArg some hk.symm)) (hq k)
  | some us =>
    cases hqk : q.find? k with
    | none =>
      rw [hpk, hqk] at hk
      exact absurd (hpk.trans (congrArg some hk)) (hp k)
    | some vs =>
      rw [hpk, hqk] at hk
      exact congrArg some hk

/-- The values that pairs hold under a key, in the order of the pairs. -/
def valuesUnder (key : String) (pairs : List (String × String)) : List String :=
  (pairs.filter fun kv => kv.1 = key).map (·.2)

@[simp] theorem valuesUnder_nil (key : String) : valuesUnder key [] = [] := rfl

@[simp] theorem valuesUnder_append (key : String) (a b : List (String × String)) :
    valuesUnder key (a ++ b) = valuesUnder key a ++ valuesUnder key b := by
  simp [valuesUnder]

theorem valuesUnder_ne_nil_iff {key : String} {pairs : List (String × String)} :
    valuesUnder key pairs ≠ [] ↔ ∃ kv ∈ pairs, kv.1 = key := by
  simp [valuesUnder, List.filter_eq_nil_iff]

theorem valuesUnder_map (key : String) (vs : List String) :
    valuesUnder key (vs.map fun v => (key, v)) = vs := by
  induction vs with
  | nil => rfl
  | cons v vs ih => simpa [valuesUnder] using ih

theorem valuesUnder_perm {a b : List (String × String)} (h : a.Perm b) (key : String) :
    (valuesUnder key a).Perm (valuesUnder key b) :=
  (h.filter _).map _

/-- **Adding pairs appends, under each key, the values that they hold under it.** -/
theorem getAll_addPairs (p : Params) (key : String) (pairs : List (String × String)) :
    (p.addPairs pairs).getAll key = p.getAll key ++ valuesUnder key pairs := by
  induction pairs generalizing p with
  | nil => simp [addPairs]
  | cons kv rest ih =>
    have hstep : p.addPairs (kv :: rest) = (p.add kv.1 kv.2).addPairs rest := rfl
    rw [hstep, ih, getAll_add]
    by_cases hk : kv.1 = key
    · simp [valuesUnder, hk]
    · simp [valuesUnder, hk, Ne.symm hk]

theorem getAll_ofPairs (key : String) (pairs : List (String × String)) :
    (ofPairs pairs).getAll key = valuesUnder key pairs := by
  rw [ofPairs, getAll_addPairs, getAll_empty, List.nil_append]

/-- Pairs make the same parameters just if they hold the same values under each key. -/
theorem ofPairs_eq_iff {a b : List (String × String)} :
    ofPairs a = ofPairs b ↔ ∀ key, valuesUnder key a = valuesUnder key b := by
  constructor
  · intro h key
    rw [← getAll_ofPairs, h, getAll_ofPairs]
  · intro h
    refine (valued_ofPairs a).eq_of_getAll (valued_ofPairs b) fun key => ?_
    rw [getAll_ofPairs, getAll_ofPairs, h]

/-! ## Entries of pairs -/

/-- Pairs whose keys differ, and are absent, add an entry each. By induction on the pairs. -/
theorem entries_addPairs_perm :
    ∀ {pairs : List (String × String)} {p : Params}, (pairs.map (·.1)).Nodup →
      (∀ kv ∈ pairs, ∀ e ∈ p.entries, e.1 ≠ kv.1) →
      (p.addPairs pairs).entries.Perm (p.entries ++ pairs.map fun kv => (kv.1, [kv.2]))
  | [], p, _, _ => by
    rw [List.map_nil, List.append_nil]
    exact .refl _
  | (k, v) :: rest, p, hdistinct, habsent => by
    rw [List.map_cons, List.nodup_cons] at hdistinct
    obtain ⟨hk, hrest⟩ := List.forall_mem_cons.1 habsent
    have hadd : (p.add k v).entries.Perm ((k, [v]) :: p.entries) := Assoc.alter_perm _ hk
    -- The key that was put in is none of those to come.
    have habsent' : ∀ kv ∈ rest, ∀ e ∈ (p.add k v).entries, e.1 ≠ kv.1 := by
      intro kv hkv e he
      rcases List.mem_cons.1 (hadd.mem_iff.1 he) with rfl | he
      · rintro rfl
        exact hdistinct.1 (List.mem_map.2 ⟨kv, hkv, rfl⟩)
      · exact hrest kv hkv e he
    exact (entries_addPairs_perm hdistinct.2 habsent').trans
      ((hadd.append_right _).trans List.perm_middle.symm)

/-- Pairs whose keys differ make an entry each. -/
theorem entries_ofPairs_perm {pairs : List (String × String)} (h : (pairs.map (·.1)).Nodup) :
    (ofPairs pairs).entries.Perm (pairs.map fun kv => (kv.1, [kv.2])) :=
  entries_addPairs_perm h fun _ _ _ => nofun

/-- Pairs of one key make one entry. -/
theorem entries_ofPairs_map (key : String) {texts : List String} (h : texts ≠ []) :
    (ofPairs (texts.map fun text => (key, text))).entries = [(key, texts)] := by
  obtain ⟨text, rest, rfl⟩ := List.exists_cons_of_ne_nil h
  rw [ofPairs, addPairs_map]
  rfl

end Params

end UrlQuery
