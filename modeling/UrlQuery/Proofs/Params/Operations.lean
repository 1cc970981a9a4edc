import Mathlib.Data.Set.Card
import UrlQuery.Proofs.Params.Valued
import UrlQuery.Proofs.Text.Order

/-!
# Runs of operations

Parameters are changed by adding, setting and removing, by merging others into them and by
appending pairs. What a run of such operations leaves under a key is what those that touch the key
make of it, one after the other (`run_observed`). The keys ascend in the order of their bytes after
any run, each once, so there are as many as are present, and the pairs go through them in turn
(`runAll_multimap`).
-/

namespace UrlQuery.Params

/-- One change of parameters. -/
inductive Operation where
  | add (key value : String)
  | set (key value : String)
  | erase (key : String)
  | merge (other : Params)
  | addPairs (pairs : List (String × String))

namespace Operation

def run (p : Params) : Operation → Params
  | add key value => p.add key value
  | set key value => p.set key value
  | erase key => p.erase key
  | merge other => p.merge other
  | addPairs pairs => p.addPairs pairs

/-- The operation says something about the key. -/
def touches (key : String) : Operation → Bool
  | add k _ | set k _ | erase k => key == k
  | merge other => other.contains key
  | addPairs pairs => pairs.any fun kv => key == kv.1

/-- What an operation that touches the key makes of its values. -/
def values (key : String) (vs : List String) : Operation → List String
  | add _ value => vs ++ [value]
  | set _ value => [value]
  | erase _ => []
  | merge other => vs ++ other.getAll key
  | addPairs pairs => vs ++ valuesUnder key pairs

/-- An operation that touches the key leaves it present. -/
def inserts : Operation → Bool
  | erase _ => false
  | add _ _ | set _ _ | merge _ | addPairs _ => true

end Operation

/-- The operations one after the other. -/
def runAll (ops : List Operation) (p : Params) : Params :=
  ops.foldl Operation.run p

/-! ## One operation under one key -/

theorem getAll_of_not_contains {p : Params} {key : String} (h : p.contains key = false) :
    p.getAll key = [] := by
  rw [contains, Option.isSome_eq_false_iff, Option.isNone_iff_eq_none] at h
  rw [getAll, h, Option.getD_none]

theorem contains_alter (p : Params) (key k : String) (f : List String → List String) :
    (p.alter k f).contains key = (key == k || p.contains key) := by
  unfold contains
  rw [find?_alter]
  by_cases h : key = k <;> simp [h]

theorem contains_erase (p : Params) (key k : String) :
    (p.erase k).contains key = if key = k then false else p.contains key := by
  unfold contains
  rw [find?_erase]
  split <;> rfl

theorem contains_merge (p q : Params) (key : String) :
    (p.merge q).contains key = (p.contains key || q.contains key) := by
  unfold contains
  rw [find?_merge]
  cases p.find? key <;> cases q.find? key <;> rfl

theorem contains_addPairs (p : Params) (key : String) (pairs : List (String × String)) :
    (p.addPairs pairs).contains key = (p.contains key || pairs.any fun kv => key == kv.1) := by
  induction pairs generalizing p with
  | nil => simp [addPairs]
  | cons kv rest ih =>
    have hstep : p.addPairs (kv :: rest) = (p.add kv.1 kv.2).addPairs rest := rfl
    rw [hstep, ih, add, contains_alter, List.any_cons]
    ac_rfl

/-- **An operation that does not touch the key leaves its values, one that touches it does to them
what it says.** -/
theorem Operation.getAll_run (op : Operation) (p : Params) (key : String) :
    (op.run p).getAll key
      = if op.touches key then op.values key (p.getAll key) else p.getAll key := by
  cases op with
  | add k v =>
    by_cases h : key = k
    · simp [run, touches, values, getAll_add, h]
    · simp [run, touches, getAll_add, h]
  | set k v => simp [run, touches, values, getAll_set]
  | erase k => simp [run, touches, values, getAll_erase]
  | merge other =>
    rw [run, getAll_merge, touches, values]
    split
    · rfl
    · next h =>
      rw [getAll_of_not_contains (Bool.eq_false_iff.2 h), List.append_nil]
  | addPairs pairs =>
    rw [run, getAll_addPairs, touches, values]
    split
    · rfl
    · next h =>
      have hnone : valuesUnder key pairs = [] := by
        refine Decidable.not_not.1 fun hne => h ?_
        obtain ⟨kv, hkv, hkey⟩ := valuesUnder_ne_nil_iff.1 hne
        exact List.any_eq_true.2 ⟨kv, hkv, beq_iff_eq.2 hkey.symm⟩
      rw [hnone, List.append_nil]

/-- A key is present after an operation that touches it, unless that is its removal. -/
theorem Operation.contains_run (op : Operation) (p : Params) (key : String) :
    (op.run p).contains key = if op.touches key then op.inserts else p.contains key := by
  cases op with
  | add k v | set k v =>
    refine (contains_alter p key k _).trans ?_
    rw [touches, inserts]
    cases key == k <;> rfl
  | erase k => simp [run, touches, inserts, contains_erase]
  | merge other =>
    rw [run, contains_merge, touches, inserts]
    cases other.contains key <;> simp
  | addPairs pairs =>
    rw [run, contains_addPairs, touches, inserts]
    cases pairs.any fun kv => key == kv.1 <;> simp

/-! ## Runs -/

/-- What each operation changes only if it touches the key is, after a run, changed by the
operations that touch the key in their order. -/
theorem run_observed {α : Type} (observe : Params → α) (change : α → Operation → α) {key : String}
    (hstep : ∀ (op : Operation) (p : Params),
      observe (op.run p) = if op.touches key then change (observe p) op else observe p) :
    ∀ (ops : List Operation) (p : Params),
      observe (runAll ops p) = (ops.filter (·.touches key)).foldl change (observe p)
  | [], _ => rfl
  | op :: ops, p => by
    have hrun : runAll (op :: ops) p = runAll ops (op.run p) := rfl
    rw [hrun, run_observed observe change hstep ops, hstep]
    by_cases h : op.touches key
    · rw [if_pos h, List.filter_cons_of_pos h, List.foldl_cons]
    · rw [if_neg h, List.filter_cons_of_neg h]

theorem getAll_runAll (ops : List Operation) (p : Params) (key : String) :
    (runAll ops p).getAll key
      = (ops.filter (·.touches key)).foldl (fun vs op => op.values key vs) (p.getAll key) :=
  run_observed (·.getAll key) _ (fun op p => op.getAll_run p key) ops p

theorem contains_runAll (ops : List Operation) (p : Params) (key : String) :
    (runAll ops p).contains key
      = (ops.filter (·.touches key)).foldl (fun _ op => op.inserts) (p.contains key) :=
  run_observed (·.contains key) _ (fun op p => op.contains_run p key) ops p

/-! ## The keys and the pairs -/

theorem mem_keys_iff {p : Params} {key : String} : key ∈ p.keys ↔ p.contains key = true := by
  rw [keys, contains, find?, List.lookup_isSome_iff, List.mem_map]
  refine exists_congr fun e => and_congr_right fun _ => ?_
  rw [beq_iff_eq, eq_comm]

/-- The keys ascend in the order of their bytes. -/
theorem keys_pairwise (p : Params) :
    p.keys.Pairwise fun a b => Utf8.encode a < Utf8.encode b :=
  List.pairwise_map.2 (p.sorted.imp Utf8.lt_iff_encode_lt.1)

theorem keys_nodup (p : Params) : p.keys.Nodup := by
  refine List.Pairwise.imp ?_ p.keys_pairwise
  rintro key _ hlt rfl
  exact List.lt_irrefl _ hlt

/-- There are as many keys as are present. -/
theorem encard_contains (p : Params) : {key | p.contains key = true}.encard = p.size := by
  have hset : {key | p.contains key = true} = (p.keys.toFinset : Set String) := by
    ext key
    rw [Set.mem_ofPred_eq, Finset.mem_coe, List.mem_toFinset, mem_keys_iff]
  rw [hset, Set.encard_coe_eq_coe_finsetCard, List.toFinset_card_of_nodup p.keys_nodup, keys,
    List.length_map, size]

theorem toPairs_eq_flatMap_keys (p : Params) :
    p.toPairs = p.keys.flatMap fun key => (p.getAll key).map fun v => (key, v) := by
  rw [toPairs, keys, List.flatMap_map]
  refine List.flatMap_congr fun e he => ?_
  rw [getAll, find?_of_mem he, Option.getD_some]

/-- **A run of operations treats each key on its own, and what it leaves is in order.** The values
of a key, and whether it is present, are settled by the operations that touch it; the keys ascend
in the order of their bytes, each once; the pairs are the values of each key in turn. -/
theorem runAll_multimap (ops : List Operation) (p : Params) :
    let q := runAll ops p
    (∀ key, q.getAll key
      = (ops.filter (·.touches key)).foldl (fun vs op => op.values key vs) (p.getAll key)) ∧
    (∀ key, q.contains key
      = (ops.filter (·.touches key)).foldl (fun _ op => op.inserts) (p.contains key)) ∧
    (q.keys.Pairwise fun a b => Utf8.encode a < Utf8.encode b) ∧
    q.keys.Nodup ∧
    (∀ key, key ∈ q.keys ↔ q.contains key = true) ∧
    {key | q.contains key = true}.encard = q.size ∧
    q.toPairs = q.keys.flatMap fun key => (q.getAll key).map fun v => (key, v) :=
  ⟨getAll_runAll ops p, contains_runAll ops p, keys_pairwise _, keys_nodup _,
    fun _ => mem_keys_iff, encard_contains _, toPairs_eq_flatMap_keys _⟩

example :
    (runAll [.add "b" "1", .addPairs [("a", "2"), ("b", "3"), ("a", "4")], .set "b" "5",
      .erase "c", .merge (ofPairs [("b", "6")])] empty).toPairs
      = [("a", "2"), ("a", "4"), ("b", "5"), ("b", "6")] := by decide

end UrlQuery.Params
