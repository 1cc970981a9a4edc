import UrlQuery.Proofs.Encoding.Depth
import UrlQuery.Proofs.Encoding.Sequence
import UrlQuery.Proofs.Text.Mark

/-!
# The keys of a walk

A key lies in a scope if it is the scope or goes on behind it as a joined name does (`Covers`). Two
names that are clean, and differ, never cover one key (`eq_of_covers_join`).

So where a value is built of maps, scalars and sequences of scalars, and the names of each map are
clean and differ, all that is written lies in the scope of the entry that writes it
(`covers_of_mem_entrySteps`), and no two entries of a map write under one key.
-/

namespace UrlQuery

/-! ## Names in scopes -/

namespace ScopeJoin

/-- The character that goes before a name in a scope. -/
def mark : ScopeJoin → Char
  | brackets => '['
  | dots => '.'

/-- What goes behind a name in a scope. -/
def close : ScopeJoin → List Char
  | brackets => [']']
  | dots => []

/-- The name is not empty, and holds no character that joining puts around names. -/
def isClean (join : ScopeJoin) (name : String) : Bool :=
  !name.isEmpty && name.toList.all fun c => c != join.mark && !join.close.contains c

/-- The key is the scope or lies in it: what goes on behind the scope begins with a mark. -/
def Covers (join : ScopeJoin) (scope key : String) : Prop :=
  ∃ tail, key.toList = scope.toList ++ tail ∧ ∀ c ∈ tail.head?, c = join.mark

@[simp] theorem join_empty (join : ScopeJoin) (name : String) : join.join "" name = name := rfl

theorem toList_join_of_ne {scope : String} (h : scope ≠ "") (join : ScopeJoin) (name : String) :
    (join.join scope name).toList
      = scope.toList ++ join.mark :: (name.toList ++ join.close) := by
  have hempty : scope.isEmpty = false := by simpa using h
  cases join <;> simp [ScopeJoin.join, hempty, mark, close]

theorem join_ne_empty {join : ScopeJoin} {name : String} (h : join.isClean name = true)
    (scope : String) : join.join scope name ≠ "" := by
  by_cases hs : scope = ""
  · rw [hs, join_empty]
    rintro rfl
    simp [isClean] at h
  · intro heq
    have hlist := toList_join_of_ne hs join name
    simp [heq] at hlist

variable {join : ScopeJoin} {scope name key : String}

/-! ### Scopes that cover a key -/

theorem Covers.refl (join : ScopeJoin) (scope : String) : join.Covers scope scope :=
  ⟨[], by simp, by simp⟩

theorem Covers.trans {inner : String} (h : join.Covers scope inner) (hi : join.Covers inner key) :
    join.Covers scope key := by
  obtain ⟨tail, hinner, htail⟩ := h
  obtain ⟨rest, hkey, hrest⟩ := hi
  refine ⟨tail ++ rest, by rw [hkey, hinner, List.append_assoc], ?_⟩
  cases tail with
  | nil => simpa using hrest
  | cons c tail => simpa using htail

theorem covers_join (h : scope ≠ "") (name : String) :
    join.Covers scope (join.join scope name) :=
  ⟨join.mark :: (name.toList ++ join.close), toList_join_of_ne h join name, by simp⟩

/-- A scope itself lies in no scope inside of it. -/
theorem ne_of_covers_join (h : join.isClean name = true)
    (hkey : join.Covers (join.join scope name) key) : key ≠ scope := by
  rintro rfl
  obtain ⟨tail, htail, -⟩ := hkey
  by_cases hs : key = ""
  · have hjoin := join_ne_empty h key
    rw [hs] at htail hjoin
    exact hjoin (String.toList_eq_nil_iff.1 (List.append_eq_nil_iff.1 htail.symm).1)
  · rw [toList_join_of_ne hs, List.append_assoc, List.self_eq_append_right] at htail
    cases htail

/-- Where two texts go on with marks or end, the parts before them that hold no mark are equal. -/
theorem eq_of_append_eq {mark : Char} {a b s t : List Char} (ha : mark ∉ a) (hb : mark ∉ b)
    (hs : ∀ c ∈ s.head?, c = mark) (ht : ∀ c ∈ t.head?, c = mark) (h : a ++ s = b ++ t) :
    a = b := by
  -- The part before the first mark can be read off the whole text.
  have hfront : ∀ {x y : List Char}, mark ∉ x → (∀ c ∈ y.head?, c = mark) →
      (x ++ y).takeWhile (· != mark) = x := by
    intro x y hx hy
    rw [List.takeWhile_append_of_pos (bne_of_notMem hx)]
    cases y with
    | nil => simp
    | cons c y =>
      have hc : c = mark := hy c rfl
      simp [hc]
  rw [← hfront ha hs, h, hfront hb ht]

theorem mark_notMem_of_isClean (h : join.isClean name = true) :
    join.mark ∉ name.toList ++ join.close := by
  have hall : ∀ c ∈ name.toList, c ≠ join.mark := by
    intro c hc
    rw [isClean, Bool.and_eq_true, List.all_eq_true] at h
    have hchar := h.2 c hc
    rw [Bool.and_eq_true] at hchar
    exact bne_iff_ne.1 hchar.1
  rw [List.mem_append]
  rintro (hmem | hmem)
  · exact hall _ hmem rfl
  · cases join <;> simp [mark, close] at hmem

/-- **Two clean names that cover one key are equal.** -/
theorem eq_of_covers_join {name' : String} (hn : join.isClean name = true)
    (hn' : join.isClean name' = true) (h : join.Covers (join.join scope name) key)
    (h' : join.Covers (join.join scope name') key) : name = name' := by
  obtain ⟨tail, hkey, htail⟩ := h
  obtain ⟨tail', hkey', htail'⟩ := h'
  rw [hkey] at hkey'
  have hmark := mark_notMem_of_isClean hn
  have hmark' := mark_notMem_of_isClean hn'
  by_cases hs : scope = ""
  · subst hs
    rw [join_empty, join_empty] at hkey'
    rw [List.mem_append, not_or] at hmark hmark'
    exact String.toList_injective (eq_of_append_eq hmark.1 hmark'.1 htail htail' hkey')
  · rw [toList_join_of_ne hs, toList_join_of_ne hs, List.append_assoc, List.append_assoc,
      List.append_cancel_left_eq, List.cons_append, List.cons_append, List.cons.injEq] at hkey'
    have hclosed := eq_of_append_eq hmark hmark' htail htail' hkey'.2
    exact String.toList_injective (List.append_cancel_right hclosed)

end ScopeJoin

/-! ## Values whose keys lie apart -/

namespace Value

/-- The value is one text: no sequence, map or struct, and nothing that encodes itself. -/
def isScalar : Value → Bool
  | absent encoder => encoder.isNone
  | seq _ | map _ | struct _ | custom _ _ => false
  | pointer _ value => value.isScalar
  | _ => true

mutual

/--
The value is built of maps, scalars and sequences of scalars, where the names of each map are clean
and no two of them equal.
-/
def KeysApart (join : ScopeJoin) : Value → Prop
  | .seq items => ∀ item ∈ items, item.isScalar = true
  | .map entries => EntriesApart join entries
  | .pointer _ value => value.KeysApart join
  | value => value.isScalar = true

/-- The entries of such a map. -/
def EntriesApart (join : ScopeJoin) : List (Value × Value) → Prop
  | [] => True
  | (name, value) :: rest =>
    join.isClean (name.render {}) = true ∧ (∀ entry ∈ rest, entry.1.render {} ≠ name.render {}) ∧
      value.KeysApart join ∧ EntriesApart join rest

end

end Value

namespace Encoding

open Value (EntriesApart)

theorem written_append (a b : List Step) : written (a ++ b) = written a ++ written b :=
  List.filterMap_append

/-- Entering and leaving write nothing. -/
theorem written_enclosed (scope : String) (level : Nat) (steps : List Step) :
    written (.enter scope level :: steps ++ [.leave]) = written steps := by
  rw [List.cons_append, written_cons, written_append]
  exact List.append_nil _

theorem written_writes (key : String) (texts : List String) :
    written (texts.map (.write key ·)) = texts.map fun text => (key, text) := by
  rw [written, List.filterMap_map]
  exact congrFun List.filterMap_eq_map texts

theorem valueSteps_of_isScalar (join : ScopeJoin) (style : Style) (place : Place)
    (scope key : String) (level : Nat) :
    ∀ {value : Value}, value.isScalar = true →
      valueSteps join style place scope key level value
        = [.write key (value.render style.options)]
  | .pointer _ value, h => by
    have hvalue : value.isScalar = true := h
    rw [valueSteps, valueSteps_of_isScalar join style place scope key level hvalue]
    rfl
  | .absent none, _ | .bool _, _ | .int _, _ | .uint _, _ | .single _, _ | .double _, _
  | .char _, _ | .text _, _ | .bytes _, _ | .time _, _ => by simp only [valueSteps]

/-- Where elements repeat the key, scalars are written one after the other. -/
theorem elementSteps_of_isScalar (join : ScopeJoin) (key : String) (level : Nat) :
    ∀ (index : Nat) {items : List Value}, (∀ item ∈ items, item.isScalar = true) →
      elementSteps join {} key level index items = items.map fun item => .write key (item.render {})
  | _, [], _ => by rw [elementSteps, List.map_nil]
  | index, item :: rest, h => by
    obtain ⟨hitem, hrest⟩ := List.forall_mem_cons.1 h
    rw [elementSteps, valueSteps_of_isScalar join _ _ _ _ _ hitem,
      elementSteps_of_isScalar join key level (index + 1) hrest]
    rfl

theorem valueSteps_texts (join : ScopeJoin) (scope key : String) (level : Nat)
    (texts : List String) :
    valueSteps join {} .slot scope key level (.seq (texts.map .text))
      = texts.map (.write key ·) := by
  have hscalar : ∀ item ∈ texts.map Value.text, item.isScalar = true := by
    intro item hitem
    obtain ⟨text, -, rfl⟩ := List.mem_map.1 hitem
    rfl
  rw [valueSteps]
  exact (elementSteps_of_isScalar join key level 0 hscalar).trans List.map_map

mutual

/-- All that such a value writes under a key lies in the scope of the key. -/
theorem covers_of_mem_valueSteps (join : ScopeJoin) {scope : String} (hs : scope ≠ "")
    (level : Nat) :
    ∀ value : Value, value.KeysApart join →
      ∀ kv ∈ written (valueSteps join {} .slot scope scope level value), join.Covers scope kv.1
  | .seq items, h, kv, hkv => by
    have hsteps : valueSteps join {} .slot scope scope level (.seq items)
        = items.map fun item => .write scope (item.render {}) := by
      rw [valueSteps]
      exact elementSteps_of_isScalar join scope level 0 h
    rw [hsteps] at hkv
    obtain ⟨step, hstep, hpair⟩ := List.mem_filterMap.1 hkv
    obtain ⟨item, -, rfl⟩ := List.mem_map.1 hstep
    cases hpair
    exact .refl join scope
  | .map entries, h, kv, hkv => by
    rw [valueSteps, written_enclosed] at hkv
    obtain ⟨entry, -, hcovers⟩ :=
      covers_of_mem_entrySteps join scope (level + 1) entries h kv hkv
    exact (ScopeJoin.covers_join hs _).trans hcovers
  | .pointer _ value, h, kv, hkv => by
    rw [valueSteps] at hkv
    exact covers_of_mem_valueSteps join hs level value h kv hkv
  | .absent none, _, _, hkv | .bool _, _, _, hkv | .int _, _, _, hkv | .uint _, _, _, hkv
  | .single _, _, _, hkv | .double _, _, _, hkv | .char _, _, _, hkv | .text _, _, _, hkv
  | .bytes _, _, _, hkv | .time _, _, _, hkv => by
    rw [valueSteps_of_isScalar join _ _ _ _ _ rfl] at hkv
    cases List.mem_singleton.1 hkv
    exact .refl join scope
  | .absent (some _), h, _, _ | .struct _, h, _, _ | .custom _ _, h, _, _ => absurd h nofun

/-- All that the entries of such a map write lies in the scope of the entry that writes it. -/
theorem covers_of_mem_entrySteps (join : ScopeJoin) (scope : String) (level : Nat) :
    ∀ entries : List (Value × Value), EntriesApart join entries →
      ∀ kv ∈ written (entrySteps join {} scope level entries),
        ∃ entry ∈ entries, join.Covers (join.join scope (entry.1.render {})) kv.1
  | [], _, kv, hkv => by
    rw [entrySteps] at hkv
    cases hkv
  | (name, value) :: rest, h, kv, hkv => by
    obtain ⟨hclean, -, hvalue, hrest⟩ := h
    rw [entrySteps, written_append, List.mem_append] at hkv
    rcases hkv with hkv | hkv
    · refine ⟨(name, value), List.mem_cons_self, ?_⟩
      split at hkv
      · cases hkv
      · exact covers_of_mem_valueSteps join (ScopeJoin.join_ne_empty hclean scope) level value
          hvalue kv hkv
    · obtain ⟨entry, hentry, hcovers⟩ :=
        covers_of_mem_entrySteps join scope level rest hrest kv hkv
      exact ⟨entry, List.mem_cons_of_mem _ hentry, hcovers⟩

end

end Encoding

end UrlQuery
