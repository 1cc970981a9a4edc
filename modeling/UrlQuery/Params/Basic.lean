import UrlQuery.Assoc

/-!
# Query parameters

`Params` holds the values of each query key: keys in ascending order of their characters (the
order of their UTF-8 bytes), the values of a key in the order in which they were added. A key may
be present with no value at all; no writing operation leaves one, but `merge` and `ofLists` keep
those they are given.

The representation is a strictly sorted list, and the order is a field of the type. So two
`Params` with the same keys and values are equal, and every operation below is a statement on that
list.
-/

namespace UrlQuery

/-- The values under one key. -/
abbrev Entry := String × List String

/-- Query keys with their values, sorted by key. -/
structure Params where
  entries : List Entry
  sorted : Assoc.Sorted entries

namespace Params

instance : DecidableEq Params := fun a b =>
  decidable_of_iff (a.entries = b.entries)
    ⟨fun h => by cases a; cases b; cases h; rfl, fun h => h ▸ rfl⟩

@[ext] theorem ext {a b : Params} (h : a.entries = b.entries) : a = b := by
  cases a; cases b; cases h; rfl

/-- No key at all. -/
def empty : Params := ⟨[], List.Pairwise.nil⟩

instance : Inhabited Params := ⟨empty⟩

/-! ## Changing -/

/-- Replaces the values under `k` by `f` of them. An absent key counts as one without values. -/
def alter (p : Params) (k : String) (f : List String → List String) : Params :=
  ⟨Assoc.alter k (fun vs => f (vs.getD [])) p.entries, p.sorted.alter⟩

/-- Appends a value under `k`. -/
def add (p : Params) (k v : String) : Params :=
  p.alter k (· ++ [v])

/-- Makes `v` the only value under `k`. -/
def set (p : Params) (k v : String) : Params :=
  p.alter k fun _ => [v]

/-- Removes `k` with all its values. -/
def erase (p : Params) (k : String) : Params :=
  ⟨Assoc.erase k p.entries, p.sorted.erase⟩

/-- Appends the pairs one after the other. -/
def addPairs (p : Params) (pairs : List (String × String)) : Params :=
  pairs.foldl (fun p kv => p.add kv.1 kv.2) p

/-- Appends all values of each entry, and makes its key present even if it has none. -/
def addEntries (p : Params) (entries : List Entry) : Params :=
  entries.foldl (fun p e => p.alter e.1 (· ++ e.2)) p

/-- Appends the values of `q` after those of `p`, key by key. -/
def merge (p q : Params) : Params :=
  p.addEntries q.entries

/-- Collects pairs. -/
def ofPairs (pairs : List (String × String)) : Params :=
  empty.addPairs pairs

/-- Collects lists of values; of two lists for one key the later one counts. -/
def ofLists (entries : List Entry) : Params :=
  entries.foldl (fun p e => p.alter e.1 fun _ => e.2) empty

/-! ## Looking up -/

/-- The values under `k` if the key is present. -/
def find? (p : Params) (k : String) : Option (List String) :=
  p.entries.lookup k

/-- All values under `k`, none when the key is absent. -/
def getAll (p : Params) (k : String) : List String :=
  (p.find? k).getD []

/-- The first value under `k`. -/
def get? (p : Params) (k : String) : Option String :=
  (p.getAll k).head?

/-- The key is present. -/
def contains (p : Params) (k : String) : Bool :=
  (p.find? k).isSome

/-- The number of keys. -/
def size (p : Params) : Nat :=
  p.entries.length

/-- No key is present. -/
def isEmpty (p : Params) : Bool :=
  p.entries.isEmpty

/-- The keys in order. -/
def keys (p : Params) : List String :=
  p.entries.map (·.1)

/-- The pairs of key and value: keys in order, the values of a key as they were added. -/
def toPairs (p : Params) : List (String × String) :=
  p.entries.flatMap fun e => e.2.map fun v => (e.1, v)

/-! ## What each operation does to the values of a key -/

@[simp] theorem getAll_empty (k : String) : empty.getAll k = [] := rfl

theorem getAll_alter (p : Params) (j k : String) (f : List String → List String) :
    (p.alter k f).getAll j = if j = k then f (p.getAll k) else p.getAll j := by
  unfold getAll find?
  split
  · next h => rw [h, alter, Assoc.lookup_alter_self _ p.sorted]; rfl
  · next h => rw [alter, Assoc.lookup_alter_of_ne h]

theorem getAll_add (p : Params) (j k v : String) :
    (p.add k v).getAll j = if j = k then p.getAll k ++ [v] else p.getAll j :=
  p.getAll_alter j k _

theorem getAll_set (p : Params) (j k v : String) :
    (p.set k v).getAll j = if j = k then [v] else p.getAll j :=
  p.getAll_alter j k _

theorem getAll_erase (p : Params) (j k : String) :
    (p.erase k).getAll j = if j = k then [] else p.getAll j := by
  unfold getAll find?
  split
  · next h => rw [h, erase, Assoc.lookup_erase_self]; rfl
  · next h => rw [erase, Assoc.lookup_erase_of_ne h]

end Params

end UrlQuery
