import UrlQuery.Proofs.Encoding.Reordered

/-!
# Trees

A tree is a map whose values are sequences of text, its leaves, and trees again, where the names of
each map are clean and differ, and nothing is empty (`Value.IsTree`). A path of names leads to each
leaf (`Value.LeafAt`), and the key of a leaf is the path joined.

Joined paths of clean names are equal just if the paths are (`ScopeJoin.path_injective`), so what
is encoded holds each leaf under a key of its own and nothing else. A tree is determined by its
leaves, but for the order of its entries (`Value.reordered_of_leafAt`), and so it is determined by
what it is encoded as (`Value.encode_tree_injective`).
-/

namespace UrlQuery

/-! ## Joined paths -/

namespace ScopeJoin

/-- The key of a path of names in a scope. -/
def path (join : ScopeJoin) (scope : String) (names : List String) : String :=
  names.foldl join.join scope

theorem covers_path (join : ScopeJoin) {names : List String} :
    ∀ {scope : String}, scope ≠ "" → (∀ name ∈ names, join.isClean name = true) →
      join.Covers scope (join.path scope names) := by
  induction names with
  | nil => exact fun _ _ => .refl join _
  | cons name rest ih =>
    intro scope hs hclean
    obtain ⟨hname, hrest⟩ := List.forall_mem_cons.1 hclean
    exact (covers_join hs name).trans (ih (join_ne_empty hname scope) hrest)

/-- A path of names leads out of the scope that it begins in. -/
theorem path_cons_ne {join : ScopeJoin} {name : String} {rest : List String}
    (h : ∀ n ∈ name :: rest, join.isClean n = true) (scope : String) :
    join.path scope (name :: rest) ≠ scope := by
  obtain ⟨hname, hrest⟩ := List.forall_mem_cons.1 h
  exact ne_of_covers_join hname (covers_path join (join_ne_empty hname scope) hrest)

/--
**A joined key has one path.** By induction on the names: both paths begin with a name that covers
the key, and go on from the same scope.
-/
theorem path_injective {join : ScopeJoin} :
    ∀ {names names' : List String} {scope : String}, (∀ n ∈ names, join.isClean n = true) →
      (∀ n ∈ names', join.isClean n = true) → join.path scope names = join.path scope names' →
      names = names'
  | [], [], _, _, _, _ => rfl
  | [], _ :: _, scope, _, hclean', h => absurd h.symm (path_cons_ne hclean' scope)
  | _ :: _, [], scope, hclean, _, h => absurd h (path_cons_ne hclean scope)
  | name :: rest, name' :: rest', scope, hclean, hclean', h => by
    obtain ⟨hname, hrest⟩ := List.forall_mem_cons.1 hclean
    obtain ⟨hname', hrest'⟩ := List.forall_mem_cons.1 hclean'
    have hcovers := covers_path join (join_ne_empty hname scope) hrest
    have hcovers' : join.Covers (join.join scope name') (join.path scope (name :: rest)) := by
      rw [h]
      exact covers_path join (join_ne_empty hname' scope) hrest'
    obtain rfl : name = name' := eq_of_covers_join hname hname' hcovers hcovers'
    rw [path_injective hrest hrest' h]

end ScopeJoin

/-! ## Trees and their leaves -/

namespace Value

mutual

/--
The value is a tree: a leaf is a sequence of texts, and all else a map from clean names, no two of
them equal, to trees. Neither is empty.
-/
def IsTree (join : ScopeJoin) : Value → Prop
  | .seq items => ∃ texts : List String, texts ≠ [] ∧ items = texts.map .text
  | .map entries => entries ≠ [] ∧ AreTrees join entries
  | _ => False

/-- The entries of such a map. -/
def AreTrees (join : ScopeJoin) : List (Value × Value) → Prop
  | [] => True
  | (.text name, value) :: rest =>
    join.isClean name = true ∧ (∀ entry ∈ rest, entry.1 ≠ .text name) ∧ value.IsTree join ∧
      AreTrees join rest
  | _ :: _ => False

end

mutual

/-- How many maps of the value lie one inside the other. -/
def mapDepth : Value → Nat
  | .map entries => entriesDepth entries + 1
  | _ => 0

/-- How many maps in the values of entries lie one inside the other. -/
def entriesDepth : List (Value × Value) → Nat
  | [] => 0
  | (_, value) :: rest => max value.mapDepth (entriesDepth rest)

end

/-- A path of names leads through the maps of the value to a sequence of these texts. -/
inductive LeafAt : Value → List String → List String → Prop where
  | leaf (texts : List String) : LeafAt (.seq (texts.map .text)) [] texts
  | entry {entries : List (Value × Value)} {name : String} {value : Value}
    {names texts : List String} (hmem : (.text name, value) ∈ entries)
    (h : LeafAt value names texts) : LeafAt (.map entries) (name :: names) texts

variable {join : ScopeJoin}

/-! ### Entries of trees -/

theorem AreTrees.of_mem {entry : Value × Value} :
    ∀ {entries : List (Value × Value)}, AreTrees join entries → entry ∈ entries →
      ∃ name, entry.1 = .text name ∧ join.isClean name = true ∧ entry.2.IsTree join
  | (.text name, value) :: rest, ⟨hclean, _, hvalue, hrest⟩, hmem => by
    rcases List.mem_cons.1 hmem with rfl | hmem
    · exact ⟨name, rfl, hclean, hvalue⟩
    · exact hrest.of_mem hmem

/-- The entries of a map of trees are told apart by their names. -/
theorem AreTrees.pairwise :
    ∀ {entries : List (Value × Value)}, AreTrees join entries →
      entries.Pairwise fun a b => b.1 ≠ a.1
  | [], _ => .nil
  | (.text _, _) :: _, ⟨_, hnames, _, hrest⟩ => .cons hnames hrest.pairwise

theorem areTrees_iff {entries : List (Value × Value)} :
    AreTrees join entries ↔ (entries.Pairwise fun a b => b.1 ≠ a.1) ∧
      ∀ entry ∈ entries,
        ∃ name, entry.1 = .text name ∧ join.isClean name = true ∧ entry.2.IsTree join := by
  constructor
  · exact fun h => ⟨h.pairwise, fun _ hmem => h.of_mem hmem⟩
  · induction entries with
    | nil => exact fun _ => trivial
    | cons entry rest ih =>
      obtain ⟨key, value⟩ := entry
      rintro ⟨hpairwise, hall⟩
      obtain ⟨⟨name, rfl, hclean, hvalue⟩, hrest⟩ := List.forall_mem_cons.1 hall
      obtain ⟨hnames, hpairwise⟩ := List.pairwise_cons.1 hpairwise
      exact ⟨hclean, hnames, hvalue, ih ⟨hpairwise, hrest⟩⟩

theorem AreTrees.eq_of_mem {name value value' : Value} {entries : List (Value × Value)}
    (h : AreTrees join entries) (hmem : (name, value) ∈ entries)
    (hmem' : (name, value') ∈ entries) : value' = value := by
  obtain ⟨before, after, rfl⟩ := List.append_of_mem hmem
  have hnames := List.pairwise_append.1 h.pairwise
  rcases List.mem_append.1 hmem' with hbefore | hrest
  · exact (hnames.2.2 _ hbefore _ List.mem_cons_self rfl).elim
  · rcases List.mem_cons.1 hrest with heq | hafter
    · exact congrArg Prod.snd heq
    · exact ((List.pairwise_cons.1 hnames.2.1).1 _ hafter rfl).elim

theorem AreTrees.perm {entries entries' : List (Value × Value)} (h : AreTrees join entries)
    (hperm : entries.Perm entries') : AreTrees join entries' := by
  rw [areTrees_iff] at h ⊢
  refine ⟨(hperm.pairwise_iff Ne.symm).1 h.1, fun entry hmem => ?_⟩
  exact h.2 entry (hperm.mem_iff.2 hmem)

/-! ### What a tree is -/

theorem IsTree.isEmpty_eq : ∀ {v : Value}, v.IsTree join → v.isEmpty = false
  | .seq _, ⟨texts, hne, hitems⟩ => by
    subst hitems
    cases texts with
    | nil => exact absurd rfl hne
    | cons text texts => rfl
  | .map entries, ⟨hne, _⟩ => by
    cases entries with
    | nil => exact absurd rfl hne
    | cons entry rest => rfl

theorem itemEncoders_texts : ∀ texts : List String, itemEncoders (texts.map .text) = []
  | [] => rfl
  | _ :: texts => itemEncoders_texts texts

mutual

theorem IsTree.keysApart : ∀ {v : Value}, v.IsTree join → v.KeysApart join
  | .seq _, ⟨texts, _, hitems⟩ => by
    subst hitems
    intro item hitem
    obtain ⟨text, -, rfl⟩ := List.mem_map.1 hitem
    rfl
  | .map _, ⟨_, h⟩ => h.entriesApart

theorem AreTrees.entriesApart :
    ∀ {entries : List (Value × Value)}, AreTrees join entries → EntriesApart join entries
  | [], _ => trivial
  | (.text name, value) :: rest, ⟨hclean, hnames, hvalue, hrest⟩ => by
    refine ⟨hclean, fun entry hentry => ?_, hvalue.keysApart, hrest.entriesApart⟩
    obtain ⟨other, hother, -⟩ := hrest.of_mem hentry
    have hne := hnames entry hentry
    rw [hother] at hne ⊢
    exact fun heq => hne (congrArg Value.text heq)

end

mutual

theorem IsTree.encoders_eq : ∀ {v : Value}, v.IsTree join → v.encoders = []
  | .seq _, ⟨texts, _, hitems⟩ => by rw [hitems, encoders, itemEncoders_texts]
  | .map _, ⟨_, h⟩ => by rw [encoders, h.entryEncoders_eq]

theorem AreTrees.entryEncoders_eq :
    ∀ {entries : List (Value × Value)}, AreTrees join entries → entryEncoders entries = []
  | [], _ => rfl
  | (.text _, _) :: _, ⟨_, _, hvalue, hrest⟩ => by
    rw [entryEncoders, hvalue.encoders_eq, hrest.entryEncoders_eq]
    rfl

end

/-! ### Leaves of trees -/

theorem LeafAt.ne_nil {v : Value} {names texts : List String} (hleaf : v.LeafAt names texts)
    (h : v.IsTree join) : texts ≠ [] := by
  induction hleaf with
  | leaf texts =>
    obtain ⟨others, hne, hitems⟩ := h
    rintro rfl
    exact hne (List.map_eq_nil_iff.1 hitems.symm)
  | entry hmem _ ih =>
    obtain ⟨-, -, -, hvalue⟩ := h.2.of_mem hmem
    exact ih hvalue

theorem LeafAt.isClean {v : Value} {names texts : List String} (hleaf : v.LeafAt names texts)
    (h : v.IsTree join) : ∀ name ∈ names, join.isClean name = true := by
  induction hleaf with
  | leaf texts => exact nofun
  | entry hmem _ ih =>
    obtain ⟨name, hname, hclean, hvalue⟩ := h.2.of_mem hmem
    cases hname
    exact List.forall_mem_cons.2 ⟨hclean, ih hvalue⟩

/-- Every tree has a leaf. -/
theorem IsTree.exists_leafAt : ∀ {v : Value}, v.IsTree join → ∃ names texts, v.LeafAt names texts
  | .seq _, ⟨texts, _, hitems⟩ => by
    subst hitems
    exact ⟨[], texts, .leaf texts⟩
  | .map ((.text name, value) :: _), ⟨_, _, _, hvalue, _⟩ => by
    obtain ⟨names, texts, hleaf⟩ := hvalue.exists_leafAt
    exact ⟨name :: names, texts, .entry List.mem_cons_self hleaf⟩
  | .map [], ⟨hne, _⟩ => absurd rfl hne

/-- The leaves behind a name are those of the one value under it. -/
theorem leafAt_cons_iff {name : String} {value : Value} {entries : List (Value × Value)}
    (h : AreTrees join entries) (hmem : (.text name, value) ∈ entries)
    {names texts : List String} :
    (Value.map entries).LeafAt (name :: names) texts ↔ value.LeafAt names texts := by
  constructor
  · rintro (_ | ⟨hmem', hleaf⟩)
    rwa [h.eq_of_mem hmem hmem'] at hleaf
  · exact .entry hmem

/-- The leaves of a map without its first entry are those that lie behind other names. -/
theorem leafAt_tail_iff {name : String} {value : Value} {rest : List (Value × Value)}
    (h : AreTrees join ((.text name, value) :: rest)) {names texts : List String} :
    (Value.map rest).LeafAt names texts ↔
      (Value.map ((.text name, value) :: rest)).LeafAt names texts ∧ names.head? ≠ some name := by
  obtain ⟨-, hnames, -, -⟩ := h
  constructor
  · rintro (_ | ⟨hmem, hleaf⟩)
    refine ⟨.entry (List.mem_cons_of_mem _ hmem) hleaf, fun heq => ?_⟩
    exact hnames _ hmem (congrArg Value.text (Option.some.inj heq))
  · rintro ⟨_ | ⟨hmem, hleaf⟩, hne⟩
    rcases List.mem_cons.1 hmem with heq | hmem
    · cases heq
      exact absurd rfl hne
    · exact .entry hmem hleaf

theorem leafAt_of_perm {entries entries' : List (Value × Value)} (h : entries.Perm entries')
    {names texts : List String} (hleaf : (Value.map entries).LeafAt names texts) :
    (Value.map entries').LeafAt names texts := by
  rcases hleaf with _ | ⟨hmem, hleaf⟩
  exact .entry (h.mem_iff.1 hmem) hleaf

mutual

/-- **A tree is determined by its leaves**, but for the order of its entries. -/
theorem reordered_of_leafAt :
    ∀ {v w : Value}, v.IsTree join → w.IsTree join →
      (∀ names texts, v.LeafAt names texts ↔ w.LeafAt names texts) → v.Reordered w
  | .seq _, _, ⟨texts, _, hitems⟩, _, h => by
    subst hitems
    have hleaf := (h [] texts).1 (.leaf texts)
    cases hleaf
    exact .same _
  | .map _, .seq _, _, ⟨texts, _, hitems⟩, h => by
    subst hitems
    have hleaf := (h [] texts).2 (.leaf texts)
    cases hleaf
  | .map _, .map _, ⟨_, hentries⟩, ⟨_, hentries'⟩, h => by
    obtain ⟨inner, hinner, hperm⟩ := entriesReordered_of_leafAt hentries hentries' h
    exact .map hinner hperm

theorem entriesReordered_of_leafAt :
    ∀ {entries entries' : List (Value × Value)}, AreTrees join entries → AreTrees join entries' →
      (∀ names texts,
        (Value.map entries).LeafAt names texts ↔ (Value.map entries').LeafAt names texts) →
      ∃ inner, EntriesReordered entries inner ∧ inner.Perm entries'
  | [], [], _, _, _ => ⟨[], .nil, .refl []⟩
  | [], entry' :: rest', _, h', h => by
    obtain ⟨names, texts, hleaf⟩ :=
      IsTree.exists_leafAt (v := .map (entry' :: rest')) ⟨List.cons_ne_nil _ _, h'⟩
    rcases (h names texts).2 hleaf with _ | ⟨hmem, -⟩
    cases hmem
  | (.text name, value) :: rest, entries', hentries, h', h => by
    have ⟨_, _, hvalue, hrest⟩ := hentries
    -- A leaf of the first value leads to the entry of that name on the other side.
    obtain ⟨names, texts, hleaf⟩ := hvalue.exists_leafAt
    obtain ⟨value', hmem⟩ : ∃ value', (.text name, value') ∈ entries' := by
      rcases (h (name :: names) texts).1 (.entry List.mem_cons_self hleaf) with _ | ⟨hmem, -⟩
      exact ⟨_, hmem⟩
    obtain ⟨before, after, rfl⟩ := List.append_of_mem hmem
    have hfront : (before ++ (Value.text name, value') :: after).Perm
        ((.text name, value') :: (before ++ after)) := List.perm_middle
    have hothers := h'.perm hfront
    have ⟨_, _, hvalue', hrest'⟩ := hothers
    have hfirst : value.Reordered value' := by
      refine reordered_of_leafAt hvalue hvalue' fun names texts => ?_
      rw [← leafAt_cons_iff hentries List.mem_cons_self, h, leafAt_cons_iff h' hmem]
    -- All other leaves lie behind other names, on both sides.
    obtain ⟨inner, hinner, hperm⟩ := entriesReordered_of_leafAt hrest hrest' fun names texts => by
      rw [leafAt_tail_iff hentries, leafAt_tail_iff hothers, h]
      exact and_congr_left fun _ => ⟨leafAt_of_perm hfront, leafAt_of_perm hfront.symm⟩
    exact ⟨_, .cons (.same _) hfirst hinner, (hperm.cons _).trans hfront.symm⟩

end

end Value

namespace Encoding

open Value (IsTree AreTrees LeafAt EntriesApart mapDepth entriesDepth)
open Params (valuesUnder)

/-! ## The walk through a tree -/

/-- What one entry alone writes under a key is all that stands there. -/
theorem valuesUnder_entrySteps_of_mem {join : ScopeJoin} {scope key : String} {level : Nat}
    {entry : Value × Value} {entries : List (Value × Value)} (h : EntriesApart join entries)
    (hmem : entry ∈ entries) (hne : entryValues join scope level key entry ≠ []) :
    valuesUnder key (written (entrySteps join {} scope level entries))
      = entryValues join scope level key entry := by
  obtain ⟨before, after, rfl⟩ := List.append_of_mem hmem
  have hfront : (before ++ entry :: after).Perm (entry :: (before ++ after)) := List.perm_middle
  have hpairwise := ((hfront.map _).pairwise_iff Or.symm).1
    (pairwise_entryValues join scope level key h)
  rw [List.map_cons, List.pairwise_cons] at hpairwise
  -- As this entry writes under the key, no other does.
  have hnil : ((before ++ after).map (entryValues join scope level key)).flatten = [] := by
    refine List.flatten_eq_nil_iff.2 fun values hvalues => ?_
    exact (hpairwise.1 values hvalues).resolve_left hne
  rw [valuesUnder_entrySteps_of_perm h rfl hfront, valuesUnder_entrySteps, List.map_cons,
    List.flatten_cons, hnil, List.append_nil]

theorem entryValues_of_isTree {join : ScopeJoin} {scope key name : String} {level : Nat}
    {value : Value} (h : value.IsTree join) :
    entryValues join scope level key (.text name, value)
      = valuesUnder key (written (valueSteps join {} .slot (join.join scope name)
          (join.join scope name) level value)) := by
  simp only [entryValues, entrySteps, h.isEmpty_eq, Value.render, List.append_nil]
  rfl

/-- A leaf behind an entry stands where the walk through the value of the entry writes it. -/
theorem valuesUnder_entrySteps_of_leafAt {join : ScopeJoin} {scope key name : String} {level : Nat}
    {value : Value} {entries : List (Value × Value)} {texts : List String}
    (h : AreTrees join entries) (hmem : (.text name, value) ∈ entries) (hne : texts ≠ [])
    (hvalue : valuesUnder key (written (valueSteps join {} .slot (join.join scope name)
      (join.join scope name) level value)) = texts) :
    valuesUnder key (written (entrySteps join {} scope level entries)) = texts := by
  obtain ⟨-, -, -, htree⟩ := h.of_mem hmem
  have hentry := (entryValues_of_isTree htree).trans hvalue
  rw [valuesUnder_entrySteps_of_mem h.entriesApart hmem (by rwa [hentry]), hentry]

/-- **Each leaf stands under the key of its path.** By induction on the path. -/
theorem valuesUnder_valueSteps_of_leafAt {join : ScopeJoin} {v : Value}
    {names texts : List String} (hleaf : v.LeafAt names texts) (h : v.IsTree join)
    (scope : String) (level : Nat) :
    valuesUnder (join.path scope names)
      (written (valueSteps join {} .slot scope scope level v)) = texts := by
  induction hleaf generalizing scope level with
  | leaf texts =>
    rw [valueSteps_texts, written_writes]
    exact Params.valuesUnder_map scope texts
  | entry hmem hleaf ih =>
    obtain ⟨-, -, -, hvalue⟩ := h.2.of_mem hmem
    rw [valueSteps, written_enclosed]
    exact valuesUnder_entrySteps_of_leafAt h.2 hmem (hleaf.ne_nil hvalue) (ih hvalue _ _)

mutual

/-- **A key that is written is the key of a leaf.** -/
theorem exists_leafAt_of_mem_valueSteps (join : ScopeJoin) (scope : String) (level : Nat) :
    ∀ {v : Value}, v.IsTree join →
      ∀ kv ∈ written (valueSteps join {} .slot scope scope level v),
        ∃ names texts, v.LeafAt names texts ∧ kv.1 = join.path scope names
  | .seq _, ⟨texts, _, hitems⟩, kv, hkv => by
    subst hitems
    rw [valueSteps_texts, written_writes] at hkv
    obtain ⟨text, -, rfl⟩ := List.mem_map.1 hkv
    exact ⟨[], texts, .leaf texts, rfl⟩
  | .map _, ⟨_, h⟩, kv, hkv => by
    rw [valueSteps, written_enclosed] at hkv
    exact exists_leafAt_of_mem_entrySteps join scope (level + 1) h kv hkv

theorem exists_leafAt_of_mem_entrySteps (join : ScopeJoin) (scope : String) (level : Nat) :
    ∀ {entries : List (Value × Value)}, AreTrees join entries →
      ∀ kv ∈ written (entrySteps join {} scope level entries),
        ∃ names texts, (Value.map entries).LeafAt names texts ∧ kv.1 = join.path scope names
  | [], _, kv, hkv => by
    rw [entrySteps] at hkv
    cases hkv
  | (.text name, value) :: rest, h, kv, hkv => by
    have ⟨_, _, hvalue, hrest⟩ := h
    rw [entrySteps, written_append, List.mem_append] at hkv
    rcases hkv with hkv | hkv
    · rw [hvalue.isEmpty_eq] at hkv
      obtain ⟨names, texts, hleaf, hkey⟩ :=
        exists_leafAt_of_mem_valueSteps join (join.join scope name) level hvalue kv hkv
      exact ⟨name :: names, texts, .entry List.mem_cons_self hleaf, hkey⟩
    · obtain ⟨names, texts, hleaf, hkey⟩ :=
        exists_leafAt_of_mem_entrySteps join scope level hrest kv hkv
      exact ⟨names, texts, ((Value.leafAt_tail_iff h).1 hleaf).1, hkey⟩

end

mutual

/-- A walk through a tree goes as deep as its maps do, and no deeper. -/
theorem fits_valueSteps (join : ScopeJoin) (scope : String) {limit level : Nat} :
    ∀ {v : Value}, v.IsTree join → level + v.mapDepth ≤ limit →
      ∀ step ∈ valueSteps join {} .slot scope scope level v, step.fits limit = true
  | .seq _, ⟨texts, _, hitems⟩, _, step, hstep => by
    subst hitems
    rw [valueSteps_texts] at hstep
    obtain ⟨text, -, rfl⟩ := List.mem_map.1 hstep
    rfl
  | .map _, ⟨_, h⟩, hdepth, step, hstep => by
    rw [mapDepth] at hdepth
    rw [valueSteps] at hstep
    exact fits_enclosed (by omega) (fits_entrySteps join scope h (by omega)) step hstep

theorem fits_entrySteps (join : ScopeJoin) (scope : String) {limit level : Nat} :
    ∀ {entries : List (Value × Value)}, AreTrees join entries →
      level + entriesDepth entries ≤ limit →
      ∀ step ∈ entrySteps join {} scope level entries, step.fits limit = true
  | [], _, _, step, hstep => by
    rw [entrySteps] at hstep
    cases hstep
  | (.text name, value) :: rest, ⟨_, _, hvalue, hrest⟩, hdepth, step, hstep => by
    rw [entriesDepth] at hdepth
    rw [entrySteps, List.mem_append, hvalue.isEmpty_eq] at hstep
    rcases hstep with hstep | hstep
    · exact fits_valueSteps join _ hvalue (by omega) step hstep
    · exact fits_entrySteps join scope hrest (by omega) step hstep

end

/-! ## The result of a tree -/

/-- A tree whose maps lie within the limit is encoded as what it writes. -/
theorem encode_of_isTree {config : Config} {entries : List (Value × Value)}
    (h : (Value.map entries).IsTree config.scopeJoin)
    (hdepth : (Value.map entries).mapDepth ≤ config.maxDepth + 1) :
    (Value.map entries).encode config
      = .ok (Params.ofPairs (written (entrySteps config.scopeJoin {} "" 0 entries))) := by
  have hwithin := within_rootSteps config.scopeJoin (.map entries) rfl
  rw [h.encoders_eq] at hwithin
  rw [mapDepth] at hdepth
  have hlevel : 0 + entriesDepth entries ≤ config.maxDepth := by omega
  refine (encode_eq_ok_iff_of_within hwithin).2 ⟨level_le_of_fits ?_, ?_⟩
  · rw [rootSteps, inPlaceSteps]
    exact fits_enclosed (Nat.zero_le _) (fits_entrySteps config.scopeJoin "" h.2 hlevel)
  · rw [rootSteps, inPlaceSteps, written_enclosed]

/-- A path leads to a leaf just if what the tree writes under the key of the path is the leaf. -/
theorem valuesUnder_eq_iff_leafAt {join : ScopeJoin} {entries : List (Value × Value)}
    (h : (Value.map entries).IsTree join) {names texts : List String}
    (hclean : ∀ name ∈ names, join.isClean name = true) (hne : texts ≠ []) :
    valuesUnder (join.path "" names) (written (entrySteps join {} "" 0 entries)) = texts ↔
      (Value.map entries).LeafAt names texts := by
  have hvalues : ∀ {names texts}, (Value.map entries).LeafAt names texts →
      valuesUnder (join.path "" names) (written (entrySteps join {} "" 0 entries)) = texts := by
    intro names texts hleaf
    have hnil := hleaf.ne_nil h
    rcases hleaf with _ | ⟨hmem, hleaf⟩
    obtain ⟨-, -, -, hvalue⟩ := h.2.of_mem hmem
    exact valuesUnder_entrySteps_of_leafAt h.2 hmem hnil
      (valuesUnder_valueSteps_of_leafAt hleaf hvalue _ 0)
  refine ⟨fun heq => ?_, hvalues⟩
  -- Something is written under the key, so it is the key of a leaf, whose path it has alone.
  obtain ⟨kv, hkv, hkey⟩ := Params.valuesUnder_ne_nil_iff.1 (heq ▸ hne)
  obtain ⟨names', texts', hleaf, hkey'⟩ := exists_leafAt_of_mem_entrySteps join "" 0 h.2 kv hkv
  obtain rfl : names = names' :=
    ScopeJoin.path_injective hclean (hleaf.isClean h) (hkey.symm.trans hkey')
  rwa [← heq, hvalues hleaf]

/-- Trees that write the same under each key have the same leaves. -/
theorem leafAt_of_valuesUnder {join : ScopeJoin} {entries entries' : List (Value × Value)}
    (h : (Value.map entries).IsTree join) (h' : (Value.map entries').IsTree join)
    (heq : ∀ key, valuesUnder key (written (entrySteps join {} "" 0 entries))
      = valuesUnder key (written (entrySteps join {} "" 0 entries')))
    {names texts : List String} (hleaf : (Value.map entries).LeafAt names texts) :
    (Value.map entries').LeafAt names texts := by
  have hclean := hleaf.isClean h
  have hne := hleaf.ne_nil h
  rwa [← valuesUnder_eq_iff_leafAt h' hclean hne, ← heq, valuesUnder_eq_iff_leafAt h hclean hne]

end Encoding

open Encoding

/--
**Trees are encoded injectively.** Let the maps of two trees lie within the limit of the depth.

* Both are encoded, and they are encoded as the same just if they are equal but for the order of
  entries.
* Each leaf stands under the key of its path, and no two leaves share a key.
-/
theorem Value.encode_tree_injective (config : Config) {entries entries' : List (Value × Value)}
    (h : (Value.map entries).IsTree config.scopeJoin)
    (h' : (Value.map entries').IsTree config.scopeJoin)
    (hdepth : (Value.map entries).mapDepth ≤ config.maxDepth + 1)
    (hdepth' : (Value.map entries').mapDepth ≤ config.maxDepth + 1) :
    ∃ a b, (Value.map entries).encode config = .ok a ∧ (Value.map entries').encode config = .ok b ∧
      (a = b ↔ (Value.map entries).Reordered (.map entries')) ∧
      (∀ names texts, (Value.map entries).LeafAt names texts →
        a.getAll (config.scopeJoin.path "" names) = texts) ∧
      ∀ names names' texts texts', (Value.map entries).LeafAt names texts →
        (Value.map entries).LeafAt names' texts' →
        config.scopeJoin.path "" names = config.scopeJoin.path "" names' → names = names' := by
  refine ⟨_, _, encode_of_isTree h hdepth, encode_of_isTree h' hdepth', ?_, ?_, ?_⟩
  · rw [Params.ofPairs_eq_iff]
    constructor
    · exact fun heq => Value.reordered_of_leafAt h h' fun names texts =>
        ⟨leafAt_of_valuesUnder h h' heq, leafAt_of_valuesUnder h' h fun key => (heq key).symm⟩
    · intro hreordered key
      have hkey :=
        valuesUnder_rootSteps_reordered config.scopeJoin key hreordered rfl h.keysApart
      rwa [rootSteps, rootSteps, inPlaceSteps, inPlaceSteps, written_enclosed,
        written_enclosed] at hkey
  · intro names texts hleaf
    rw [Params.getAll_ofPairs]
    exact (valuesUnder_eq_iff_leafAt h (hleaf.isClean h) (hleaf.ne_nil h)).2 hleaf
  · intro names names' texts texts' hleaf hleaf' hkey
    exact ScopeJoin.path_injective (hleaf.isClean h) (hleaf'.isClean h) hkey

/-- Two trees of two levels, which are as deep as the limit allows. -/
theorem Value.encode_tree_injective_nested :
    let entries := [
      (Value.text "a", Value.map [(.text "x", .seq [.text "1", .text ""]),
        (.text "y", .seq [.text "2"])]),
      (.text "b", .seq [.text "3"])]
    let entries' := [
      (Value.text "b", Value.seq [.text "3"]),
      (.text "a", .map [(.text "y", .seq [.text "2"]),
        (.text "x", .seq [.text "1", .text ""])])]
    let config : Config := { maxDepth := 1, scopeJoin := .dots }
    let p := Params.ofPairs [("a.x", "1"), ("a.x", ""), ("a.y", "2"), ("b", "3")]
    (Value.map entries).IsTree .dots ∧ (Value.map entries').IsTree .dots ∧
      (Value.map entries).mapDepth = 2 ∧ (Value.map entries').mapDepth = 2 ∧
      (Value.map entries).encode config = .ok p ∧ (Value.map entries').encode config = .ok p ∧
      (Value.map entries).Reordered (.map entries') := by
  intro entries entries' config p
  have hx : (Value.seq [.text "1", .text ""]).IsTree .dots := ⟨["1", ""], nofun, rfl⟩
  have hy : (Value.seq [.text "2"]).IsTree .dots := ⟨["2"], nofun, rfl⟩
  have hb : (Value.seq [.text "3"]).IsTree .dots := ⟨["3"], nofun, rfl⟩
  have h : (Value.map entries).IsTree .dots :=
    ⟨nofun, rfl, by simp, ⟨nofun, rfl, by simp, hx, rfl, nofun, hy, trivial⟩, rfl, nofun, hb,
      trivial⟩
  have h' : (Value.map entries').IsTree .dots :=
    ⟨nofun, rfl, by simp, hb, rfl, nofun, ⟨nofun, rfl, by simp, hy, rfl, nofun, hx, trivial⟩,
      trivial⟩
  have hp : (Value.map entries).encode config = .ok p := by rfl
  have hp' : (Value.map entries').encode config = .ok p := by
    simp only [entries', config, p]
    rfl
  obtain ⟨a, b, ha, hb, heq, -⟩ := encode_tree_injective config h h' (by decide) (by decide)
  obtain rfl : p = a := Except.ok.inj (hp.symm.trans ha)
  obtain rfl : p = b := Except.ok.inj (hp'.symm.trans hb)
  exact ⟨h, h', rfl, rfl, hp, hp', heq.1 rfl⟩

end UrlQuery
