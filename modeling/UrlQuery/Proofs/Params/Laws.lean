import UrlQuery.Params.Basic

/-!
# Laws of parameters

Parameters are determined by what stands under each key (`eq_of_find?`), and merging is done key by
key (`find?_merge`). So parameters are a monoid under `merge` with the empty ones as unit, and
adding pairs one after the other is merging what they make on their own (`addPairs_eq_merge`).

The pairs of parameters make them again, but for the keys without values (`ofPairs_toPairs`).
All of it together is `merge_monoid_ofPairs`.
-/

namespace UrlQuery

namespace Assoc

variable {α : Type}

/-- A key that another sorted list holds too does not stand before all its keys. -/
theorem Sorted.not_lt_of_lookup {k j : String} {x y : α} {m : List (String × α)}
    (hm : Sorted ((j, y) :: m)) (h : ((j, y) :: m).lookup k = some x) : ¬ k < j := by
  intro hlt
  have hnone : ((j, y) :: m).lookup k = none := lookup_eq_none_of_lt fun e he => by
    rcases List.mem_cons.1 he with rfl | he
    · exact hlt
    · exact String.lt_trans hlt ((List.pairwise_cons.1 hm).1 e he)
  rw [hnone] at h
  cases h

/-- Two sorted lists with the same lookups are equal. -/
theorem Sorted.eq_of_lookup :
    ∀ {l m : List (String × α)}, Sorted l → Sorted m → (∀ k, l.lookup k = m.lookup k) → l = m
  | [], [], _, _, _ => rfl
  | [], (j, y) :: m, _, _, h => by simpa using h j
  | (k, x) :: l, [], _, _, h => by simpa using h k
  | (k, x) :: l, (j, y) :: m, hl, hm, h => by
    have hl' := List.pairwise_cons.1 hl
    have hm' := List.pairwise_cons.1 hm
    -- Neither first key stands before the other, as each list holds the other's too.
    have hkj : ¬ k < j := hm.not_lt_of_lookup (x := x) (by rw [← h k]; simp)
    have hjk : ¬ j < k := hl.not_lt_of_lookup (x := y) (by rw [h j]; simp)
    obtain rfl : k = j := Std.le_antisymm (String.not_lt.1 hjk) (String.not_lt.1 hkj)
    have hxy : x = y := by simpa using h k
    have htail : ∀ i, l.lookup i = m.lookup i := by
      intro i
      by_cases hi : i = k
      · rw [hi, lookup_eq_none_of_lt hl'.1, lookup_eq_none_of_lt hm'.1]
      · simpa [List.lookup_cons, beq_false_of_ne hi] using h i
    rw [hxy, Sorted.eq_of_lookup hl'.2 hm'.2 htail]

end Assoc

namespace Params

/-! ## Extensionality -/

/-- Parameters are determined by what stands under each key. -/
theorem eq_of_find? {p q : Params} (h : ∀ k, p.find? k = q.find? k) : p = q :=
  ext (p.sorted.eq_of_lookup q.sorted h)

theorem find?_alter (p : Params) (j k : String) (f : List String → List String) :
    (p.alter k f).find? j = if j = k then some (f (p.getAll k)) else p.find? j := by
  unfold getAll find?
  split
  · next h => rw [h, alter, Assoc.lookup_alter_self _ p.sorted]
  · next h => rw [alter, Assoc.lookup_alter_of_ne h]

/-! ## Merging -/

theorem find?_append (p : Params) (j k : String) (vs : List String) :
    (p.alter k (· ++ vs)).find? j
      = Option.merge (· ++ ·) (p.find? j) (if j = k then some vs else none) := by
  rw [find?_alter]
  split
  · next h =>
    subst h
    unfold getAll
    cases p.find? j <;> rfl
  · rw [Option.merge_none_right]

/-- Entries that ascend by key are appended each under its key. -/
theorem find?_addEntries :
    ∀ {entries : List Entry}, Assoc.Sorted entries → ∀ (p : Params) (k : String),
      (p.addEntries entries).find? k
        = Option.merge (· ++ ·) (p.find? k) (entries.lookup k)
  | [], _, p, k => by simp [addEntries]
  | (j, vs) :: rest, h, p, k => by
    have hc := List.pairwise_cons.1 h
    have ih := find?_addEntries hc.2 (p.alter j (· ++ vs)) k
    rw [addEntries, List.foldl_cons, ← addEntries, ih, find?_append]
    by_cases hk : k = j
    · -- The entries behind this one have greater keys and leave it alone.
      subst hk
      rw [Assoc.lookup_eq_none_of_lt hc.1]
      simp
    · simp [List.lookup_cons, beq_false_of_ne hk, hk]

theorem find?_merge (p q : Params) (k : String) :
    (p.merge q).find? k = Option.merge (· ++ ·) (p.find? k) (q.find? k) :=
  find?_addEntries q.sorted p k

theorem getAll_merge (p q : Params) (key : String) :
    (p.merge q).getAll key = p.getAll key ++ q.getAll key := by
  unfold getAll
  rw [find?_merge]
  cases p.find? key <;> cases q.find? key <;> simp [Option.merge]

theorem merge_assoc (p q r : Params) : (p.merge q).merge r = p.merge (q.merge r) :=
  eq_of_find? fun k => by
    simp only [find?_merge]
    exact (Option.associative_merge _).assoc _ _ _

@[simp] theorem merge_empty (p : Params) : p.merge empty = p := rfl

@[simp] theorem empty_merge (p : Params) : empty.merge p = p :=
  eq_of_find? fun k => by rw [find?_merge]; exact Option.merge_none_left

/-! ## Adding is merging -/

theorem add_eq_merge (p : Params) (k v : String) : p.add k v = p.merge (empty.add k v) := rfl

/-- Adding pairs is merging what the pairs make on their own. -/
theorem addPairs_eq_merge (p : Params) :
    ∀ pairs : List (String × String), p.addPairs pairs = p.merge (ofPairs pairs) := by
  intro pairs
  induction pairs generalizing p with
  | nil => rfl
  | cons kv rest ih =>
    have hleft : p.addPairs (kv :: rest) = (p.add kv.1 kv.2).addPairs rest := rfl
    have hright : ofPairs (kv :: rest) = (empty.add kv.1 kv.2).addPairs rest := rfl
    rw [hleft, hright, ih, ih (empty.add kv.1 kv.2), ← merge_assoc, ← add_eq_merge]

theorem addPairs_append (p : Params) (a b : List (String × String)) :
    p.addPairs (a ++ b) = (p.addPairs a).addPairs b :=
  List.foldl_append

/-- Collecting pairs in two parts is merging what the parts make. -/
theorem ofPairs_append (a b : List (String × String)) :
    ofPairs (a ++ b) = (ofPairs a).merge (ofPairs b) := by
  rw [ofPairs, addPairs_append, addPairs_eq_merge]
  rfl

/-! ## Keys without values -/

/-- The keys that have a value. -/
def compact (p : Params) : Params :=
  ⟨p.entries.filter fun e => !e.2.isEmpty, p.sorted.filter _⟩

theorem compact_eq_self_iff (p : Params) : p.compact = p ↔ ∀ e ∈ p.entries, e.2 ≠ [] := by
  rw [Params.ext_iff, compact, List.filter_eq_self]
  simp

/-- There are no pairs just if no key has a value. -/
theorem toPairs_eq_nil_iff {p : Params} : p.toPairs = [] ↔ p.compact = empty := by
  rw [toPairs, List.flatMap_eq_nil_iff, Params.ext_iff, compact, empty, List.filter_eq_nil_iff]
  simp

/-- Two changes under one key are one. -/
theorem alter_alter (p : Params) (k : String) (f g : List String → List String) :
    (p.alter k f).alter k g = p.alter k (g ∘ f) :=
  eq_of_find? fun j => by
    rw [find?_alter, find?_alter, find?_alter]
    split
    · rw [getAll_alter, if_pos rfl]; rfl
    · rfl

/-- Adding pairs of one key is appending their values. -/
theorem addPairs_map (p : Params) (k : String) :
    ∀ (v : String) (vs : List String),
      p.addPairs ((v :: vs).map fun v => (k, v)) = p.alter k (· ++ v :: vs) := by
  intro v vs
  induction vs generalizing p v with
  | nil => rfl
  | cons w vs ih =>
    have hstep : p.addPairs ((v :: w :: vs).map fun v => (k, v))
        = (p.add k v).addPairs ((w :: vs).map fun v => (k, v)) := rfl
    have happend : ((· ++ w :: vs) ∘ (· ++ [v]) : List String → List String)
        = (· ++ v :: w :: vs) := by
      funext us
      simp
    rw [hstep, ih, add, alter_alter, happend]

/-- Adding all pairs of some entries is appending the entries that have a value. -/
theorem addPairs_flatMap (p : Params) :
    ∀ entries : List Entry,
      p.addPairs (entries.flatMap fun e => e.2.map fun v => (e.1, v))
        = p.addEntries (entries.filter fun e => !e.2.isEmpty) := by
  intro entries
  induction entries generalizing p with
  | nil => rfl
  | cons e rest ih =>
    obtain ⟨k, vs⟩ := e
    rw [List.flatMap_cons, addPairs_append, ih]
    cases vs with
    | nil => rfl
    | cons v vs => rw [addPairs_map]; rfl

/-- The pairs of parameters make them again, but for the keys without values. -/
theorem ofPairs_toPairs (p : Params) : ofPairs p.toPairs = p.compact :=
  calc ofPairs p.toPairs
      = empty.addEntries (p.entries.filter fun e => !e.2.isEmpty) :=
        addPairs_flatMap empty p.entries
    _ = empty.merge p.compact := rfl
    _ = p.compact := empty_merge p.compact

/--
**Parameters are a monoid under `merge`, and collecting pairs respects it.**

* Merging is associative, and the empty parameters are its unit on both sides. Under each key it
  appends the values.
* Collecting takes pairs that are appended to parameters that are merged, and adding pairs to
  parameters is merging in what they collect to.
* The pairs of parameters collect to the entries that have a value.
-/
theorem merge_monoid_ofPairs :
    (∀ a b c : Params, (a.merge b).merge c = a.merge (b.merge c)) ∧
    (∀ a : Params, empty.merge a = a ∧ a.merge empty = a) ∧
    (∀ (a b : Params) (k : String), (a.merge b).getAll k = a.getAll k ++ b.getAll k) ∧
    (ofPairs [] = empty ∧ ∀ ps qs, ofPairs (ps ++ qs) = (ofPairs ps).merge (ofPairs qs)) ∧
    (∀ (v : Params) (ps : List (String × String)), v.addPairs ps = v.merge (ofPairs ps)) ∧
    ∀ v : Params, (ofPairs v.toPairs).entries = v.entries.filter fun e => !e.2.isEmpty := by
  refine ⟨merge_assoc, fun a => ⟨empty_merge a, merge_empty a⟩, getAll_merge,
    ⟨rfl, ofPairs_append⟩, addPairs_eq_merge, fun v => ?_⟩
  rw [ofPairs_toPairs]
  rfl

end Params

end UrlQuery
