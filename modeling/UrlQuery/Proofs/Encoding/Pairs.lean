import UrlQuery.Proofs.Encoding.Idempotence

/-!
# Sequences read in pairs

A sequence at the root, or in another sequence, is read from left to right, and each element is
taken once. Whether a key waits for its value is all that the reading keeps in mind
(`Value.keyWaits`): where none does, a map or a struct is visited in place, and any other element is
a key; where one does, the next element is its value, whatever it is.

So a sequence can be cut wherever no key waits, and its parts are encoded one after the other. A key
that waits at the end is dropped, and where elements follow, the first of them is its value
(`Value.encodeInto_pairs`).
-/

namespace UrlQuery

namespace Value

/-! ## Keys that wait -/

/-- A key waits behind an element, if one waits before it or not. -/
def keyWaits (waits : Bool) (value : Value) : Bool :=
  !waits && !value.isContainer

/-- A key waits at the end of a sequence. -/
def endsInKey (items : List Value) : Bool :=
  items.foldl keyWaits false

theorem endsInKey_cons_of_isContainer {first : Value} (h : first.isContainer = true)
    (rest : List Value) : endsInKey (first :: rest) = endsInKey rest := by
  rw [endsInKey, List.foldl_cons, keyWaits, h]
  rfl

/-- Behind a key and its value none waits, as at the beginning. -/
theorem endsInKey_cons_cons {first : Value} (h : first.isContainer = false) (second : Value)
    (rest : List Value) : endsInKey (first :: second :: rest) = endsInKey rest := by
  rw [endsInKey, List.foldl_cons, List.foldl_cons, keyWaits, keyWaits, h]
  rfl

theorem endsInKey_concat (before : List Value) (last : Value) :
    endsInKey (before ++ [last]) = keyWaits (endsInKey before) last := by
  rw [endsInKey, List.foldl_append, List.foldl_cons, List.foldl_nil, endsInKey]

/-- A key that waits is the last element, and the elements before it leave none. -/
theorem exists_of_endsInKey {items : List Value} (h : endsInKey items = true) :
    ∃ before key, items = before ++ [key] ∧ endsInKey before = false ∧ key.isContainer = false := by
  rcases List.eq_nil_or_concat items with rfl | ⟨before, key, rfl⟩
  · cases h
  · rw [List.concat_eq_append, endsInKey_concat, keyWaits, Bool.and_eq_true, Bool.not_eq_true',
      Bool.not_eq_true'] at h
    exact ⟨before, key, List.concat_eq_append, h.1, h.2⟩

/-- The texts of elements that are keys and values by turns; a key without a value is dropped. -/
def pairTexts : List Value → List (String × String)
  | key :: value :: rest => (key.render {}, value.render {}) :: pairTexts rest
  | [_] | [] => []

theorem length_pairTexts (items : List Value) :
    (pairTexts items).length = items.length / 2 := by
  induction items using pairTexts.induct with
  | case1 key value rest ih =>
    rw [pairTexts, List.length_cons, ih, List.length_cons, List.length_cons]
    omega
  | case2 key => rw [pairTexts, List.length_singleton, List.length_nil]
  | case3 => rfl

theorem getElem?_pairTexts :
    ∀ (items : List Value) (i : Nat) (h : 2 * i + 1 < items.length),
      (pairTexts items)[i]? = some (items[2 * i].render {}, items[2 * i + 1].render {})
  | key :: value :: rest, 0, _ => rfl
  | key :: value :: rest, i + 1, h => by
    have hrest : 2 * i + 1 < rest.length := by
      simp only [List.length_cons] at h
      omega
    exact getElem?_pairTexts rest i hrest

end Value

namespace Encoding

open Value (endsInKey pairTexts)

/-! ## The reading -/

/-- A map or a struct where no key waits is visited in place. -/
theorem pairSteps_cons_of_isContainer (join : ScopeJoin) (scope : String) (level : Nat)
    {first : Value} (h : first.isContainer = true) (rest : List Value) :
    pairSteps join scope level (first :: rest)
      = inPlaceSteps join scope level first ++ pairSteps join scope level rest := by
  cases rest <;> simp only [pairSteps, if_pos h]

/-- A key is read with the element behind it, and does nothing without one. -/
theorem pairSteps_key (join : ScopeJoin) (scope : String) (level : Nat) {key : Value}
    (h : key.isContainer = false) :
    pairSteps join scope level [key] = [] ∧
      ∀ value rest, pairSteps join scope level (key :: value :: rest)
        = .write (key.render {}) (value.render {}) :: pairSteps join scope level rest := by
  have hkey : ¬ key.isContainer = true := by simp [h]
  exact ⟨by rw [pairSteps, if_neg hkey], fun _ _ => by rw [pairSteps, if_neg hkey]⟩

/-- **Where no key waits, the reading begins anew.** By induction along it, an element or two at a
time. -/
theorem pairSteps_append (join : ScopeJoin) (scope : String) (level : Nat) :
    ∀ {a : List Value}, endsInKey a = false → ∀ b : List Value,
      pairSteps join scope level (a ++ b)
        = pairSteps join scope level a ++ pairSteps join scope level b
  | [], _, b => by rw [List.nil_append, pairSteps, List.nil_append]
  | [first], h, b => by
    cases hfirst : first.isContainer with
    | true =>
      rw [pairSteps_cons_of_isContainer join scope level hfirst, pairSteps, List.append_nil]
      exact pairSteps_cons_of_isContainer join scope level hfirst b
    | false =>
      -- A key alone waits.
      rw [endsInKey, List.foldl_cons, Value.keyWaits, hfirst] at h
      cases h
  | first :: second :: rest, h, b => by
    cases hfirst : first.isContainer with
    | true =>
      -- The second element may be a key, or a container in its turn.
      rw [Value.endsInKey_cons_of_isContainer hfirst] at h
      rw [List.cons_append, pairSteps_cons_of_isContainer join scope level hfirst,
        pairSteps_append join scope level h b,
        pairSteps_cons_of_isContainer join scope level hfirst, List.append_assoc]
    | false =>
      rw [Value.endsInKey_cons_cons hfirst] at h
      rw [List.cons_append, List.cons_append, (pairSteps_key join scope level hfirst).2,
        pairSteps_append join scope level h b, (pairSteps_key join scope level hfirst).2,
        List.cons_append]

/-- Where no element is a map or a struct, they are keys and values by turns, in any scope. -/
theorem pairSteps_of_not_isContainer (join : ScopeJoin) (scope : String) (level : Nat) :
    ∀ {items : List Value}, (∀ item ∈ items, item.isContainer = false) →
      pairSteps join scope level items = (pairTexts items).map fun kv => .write kv.1 kv.2
  | [], _ => by rw [pairSteps]; rfl
  | [key], h => (pairSteps_key join scope level (h key List.mem_cons_self)).1
  | key :: value :: rest, h => by
    have hrest : ∀ item ∈ rest, item.isContainer = false := fun item hitem =>
      h item (List.mem_cons_of_mem _ (List.mem_cons_of_mem _ hitem))
    rw [(pairSteps_key join scope level (h key List.mem_cons_self)).2,
      pairSteps_of_not_isContainer join scope level hrest, pairTexts, List.map_cons]

theorem encodeInto_seq (config : Config) (items : List Value) (p : Params) :
    (Value.seq items).encodeInto config p
      = outcome config.maxDepth (pairSteps config.scopeJoin "" 0 items) p := by
  rw [Value.encodeInto_eq, rootSteps, outcome_enclosed (Nat.zero_le _)]

theorem encodeInto_seq_append (config : Config) {a : List Value} (h : endsInKey a = false)
    (b : List Value) (p : Params) :
    (Value.seq (a ++ b)).encodeInto config p
      = Outcome.andThen ((Value.seq a).encodeInto config p) ((Value.seq b).encodeInto config) := by
  rw [encodeInto_seq, encodeInto_seq, pairSteps_append config.scopeJoin "" 0 h, outcome_append]
  congr 1
  funext q
  exact (encodeInto_seq config b q).symm

/-- At the root, a map or struct in a sequence is encoded as a root. -/
theorem encodeInto_seq_singleton (config : Config) {value : Value}
    (h : value.isContainer = true) (p : Params) :
    (Value.seq [value]).encodeInto config p = value.encodeInto config p := by
  rw [encodeInto_seq, pairSteps, if_pos h, pairSteps, List.append_nil, Value.encodeInto_eq,
    rootSteps_of_isContainer config.scopeJoin value h]

/-- A key alone does nothing. -/
theorem encodeInto_seq_key (config : Config) {key : Value} (h : key.isContainer = false)
    (p : Params) : (Value.seq [key]).encodeInto config p = (.ok (), p) := by
  rw [encodeInto_seq, (pairSteps_key _ _ _ h).1, outcome_nil]

theorem encodeInto_seq_cons_cons (config : Config) {key : Value} (h : key.isContainer = false)
    (value : Value) (rest : List Value) (p : Params) :
    (Value.seq (key :: value :: rest)).encodeInto config p
      = (Value.seq rest).encodeInto config (p.add (key.render {}) (value.render {})) := by
  rw [encodeInto_seq, (pairSteps_key _ _ _ h).2, outcome_cons, outcome_write, Outcome.andThen_ok,
    encodeInto_seq]

theorem run_visitPairs_of_not_isContainer (config : Config) (scope : String) (level : Nat)
    {items : List Value} (h : ∀ item ∈ items, item.isContainer = false) (p : Params) :
    ((visitPairs config scope level items).run).run p
      = (.ok (), p.addPairs (pairTexts items)) := by
  rw [visitPairs_eq, pairSteps_of_not_isContainer _ _ _ h]
  exact outcome_writes config.maxDepth (pairTexts items) p

end Encoding

open Encoding

/--
**A sequence is read in pairs from left to right, and each element once.**

* A map or struct is visited in place.
* Behind elements that leave no key waiting, a sequence is encoded as one of its own, unless they
  fail.
* A key that waits at the end does nothing. Where elements follow, the first of them is its value,
  whatever it is, and the others are encoded as a sequence of their own.
* Where no element is a map or a struct, each at an even place is the key of that behind it, half as
  many as the elements, whatever the scope.
-/
theorem Value.encodeInto_pairs (config : Config) (p : Params) :
    (∀ value : Value, value.isContainer = true →
      (Value.seq [value]).encodeInto config p = value.encodeInto config p) ∧
    (∀ a b : List Value, endsInKey a = false →
      (Value.seq (a ++ b)).encodeInto config p
        = Outcome.andThen ((Value.seq a).encodeInto config p)
            ((Value.seq b).encodeInto config)) ∧
    (∀ a : List Value, endsInKey a = true → ∃ before key, a = before ++ [key] ∧
      (Value.seq a).encodeInto config p = (Value.seq before).encodeInto config p ∧
      ∀ value rest, (Value.seq (a ++ value :: rest)).encodeInto config p
        = Outcome.andThen ((Value.seq before).encodeInto config p) fun q =>
            (Value.seq rest).encodeInto config (q.add (key.render {}) (value.render {}))) ∧
    (∀ items : List Value, (∀ item ∈ items, item.isContainer = false) →
      (pairTexts items).length = items.length / 2 ∧
      (∀ (i : Nat) (h : 2 * i + 1 < items.length), (pairTexts items)[i]?
        = some (items[2 * i].render {}, items[2 * i + 1].render {})) ∧
      (Value.seq items).encodeInto config p = (.ok (), p.addPairs (pairTexts items)) ∧
      ∀ scope level, ((visitPairs config scope level items).run).run p
        = (.ok (), p.addPairs (pairTexts items))) := by
  refine ⟨fun value h => encodeInto_seq_singleton config h p,
    fun a b h => encodeInto_seq_append config h b p, fun a h => ?_, fun items h => ?_⟩
  · obtain ⟨before, key, rfl, hbefore, hkey⟩ := exists_of_endsInKey h
    refine ⟨before, key, rfl, ?_, fun value rest => ?_⟩
    · rw [encodeInto_seq_append config hbefore,
        funext (encodeInto_seq_key config hkey), Outcome.andThen_done]
    · rw [List.append_assoc, List.singleton_append, encodeInto_seq_append config hbefore]
      congr 1
      funext q
      exact encodeInto_seq_cons_cons config hkey value rest q
  · refine ⟨length_pairTexts items, getElem?_pairTexts items, ?_,
      fun scope level => run_visitPairs_of_not_isContainer config scope level h p⟩
    rw [encodeInto_seq, pairSteps_of_not_isContainer _ _ _ h, outcome_writes]

/-- A map that fails, behind a key, behind another that waits, and where no key waits. -/
theorem Value.encodeInto_pairs_failing :
    let failing := Value.map
      [(.text "a", .int 1), (.text "b", .custom (.ofWrites [.fail "no"]) false)]
    let before : List Value := [.text "k", failing, .map [(.text "c", .int 2)]]
    let scalars : List Value := [.text "k", .seq [.int 1, .int 2], .bool true]
    failing.isContainer = true ∧ endsInKey before = false ∧
      endsInKey (before ++ [.text "j"]) = true ∧
      (∀ item ∈ scalars, item.isContainer = false) ∧
      (Value.seq [failing]).encodeInto {} .empty = failing.encodeInto {} .empty ∧
      (Value.seq (before ++ [failing, .text "l"])).encodeInto {} .empty
        = Outcome.andThen ((Value.seq before).encodeInto {} .empty)
            ((Value.seq [failing, .text "l"]).encodeInto {}) ∧
      (∃ init key, before ++ [.text "j"] = init ++ [key] ∧
        (Value.seq (before ++ [.text "j"])).encodeInto {} .empty
          = (Value.seq init).encodeInto {} .empty ∧
        ∀ value rest, (Value.seq (before ++ [.text "j"] ++ value :: rest)).encodeInto {} .empty
          = Outcome.andThen ((Value.seq init).encodeInto {} .empty) fun q =>
              (Value.seq rest).encodeInto {} (q.add (key.render {}) (value.render {}))) ∧
      (Value.seq scalars).encodeInto {} .empty = (.ok (), Params.ofPairs [("k", "1,2")]) ∧
      (Value.seq (before ++ .text "j" :: failing :: [failing])).encodeInto {} .empty
        = (.error (.customEncoder "b" "no"),
            Params.ofPairs [("k", ""), ("c", "2"), ("j", ""), ("a", "1")]) := by
  intro failing before scalars
  have hbefore : endsInKey before = false := by
    simp only [before, failing]
    rfl
  have hwaits : endsInKey (before ++ [.text "j"]) = true := by
    simp only [before, failing]
    rfl
  have hscalars : ∀ item ∈ scalars, item.isContainer = false := by
    simp only [scalars, List.forall_mem_cons]
    exact ⟨rfl, rfl, rfl, nofun⟩
  obtain ⟨hplace, happend, hkey, htexts⟩ := Value.encodeInto_pairs {} Params.empty
  refine ⟨rfl, hbefore, hwaits, hscalars, hplace failing rfl, happend before _ hbefore,
    hkey _ hwaits, (htexts scalars hscalars).2.2.1.trans ?_, ?_⟩
  · simp only [scalars]
    rfl
  · simp only [before, failing]
    rfl

end UrlQuery
