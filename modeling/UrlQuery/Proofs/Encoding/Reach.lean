import UrlQuery.Params.Json
import UrlQuery.Proofs.Encoding.Encoders
import UrlQuery.Proofs.Params.Form
import UrlQuery.Proofs.Params.Valued

/-!
# Runs of operations

Parameters `Reach` others by any run of operations: adding, setting and removing, merging and
collecting, reading a query string, encoding a value, whose encoders run operations themselves, and
reading JSON. Each operation but the last keeps parameters valued, and reading JSON makes valued
ones of an object without empty arrays (`valued_ofJsonValue?`). So a key that is present has a
value after every run that reads no others (`Reaches.valued`).

An object with an empty array is read as parameters with a key that has no values
(`ofJson?_empty_array`).
-/

namespace UrlQuery.Params

/--
What a run of operations makes of parameters, error or no error, where only such parameters are
read from JSON as are among `loads`.
-/
inductive Reaches (loads : Params → Prop) : Params → Params → Prop where
  | refl {p : Params} : Reaches loads p p
  /-- Starts with parameters that are empty. -/
  | empty {p : Params} : Reaches loads p empty
  | add {p q : Params} (k v : String) (h : Reaches loads p q) : Reaches loads p (q.add k v)
  | set {p q : Params} (k v : String) (h : Reaches loads p q) : Reaches loads p (q.set k v)
  | erase {p q : Params} (k : String) (h : Reaches loads p q) : Reaches loads p (q.erase k)
  /-- Merges what another run has made. -/
  | merge {p q r : Params} (h : Reaches loads p q) (hr : Reaches loads p r) :
    Reaches loads p (q.merge r)
  | addPairs {p q : Params} (pairs : List (String × String)) (h : Reaches loads p q) :
    Reaches loads p (q.addPairs pairs)
  /-- Reads a query string in place of what there is. -/
  | parseBytes {p : Params} (bytes : List UInt8) : Reaches loads p (parseBytes bytes)
  /-- Encodes a value whose encoders run operations on the parameters they are given. -/
  | encodeInto {p q : Params} (config : Config) (value : Value) (h : Reaches loads p q)
    (hencoders : ∀ encoder ∈ value.encoders, ∀ key r, Reaches loads r (encoder.run key r).1) :
    Reaches loads p (value.encodeInto config q).2
  /-- Reads JSON in place of what there is. -/
  | ofJson {p q : Params} {text : String} (hq : ofJson? text = some q) (hload : loads q) :
    Reaches loads p q

/-- **No run leaves a key without a value**, if it reads none such from JSON. -/
theorem Reaches.valued {p q : Params} (h : Reaches Valued p q) (hp : p.Valued) : q.Valued := by
  induction h with
  | refl => exact hp
  | empty => exact valued_empty
  | add k v _ ih => exact (ih hp).add k v
  | set k v _ ih => exact (ih hp).set k v
  | erase k _ ih => exact (ih hp).erase k
  | merge _ _ ih ihr => exact (ih hp).merge (ihr hp)
  | addPairs pairs _ ih => exact (ih hp).addPairs pairs
  | parseBytes bytes => exact valued_ofPairs _
  | encodeInto config value _ _ ih ihencoders =>
    exact Encoding.keeps_encodeInto (fun _ key v hr => hr.add key v) config ihencoders (ih hp)
  | ofJson _ hload => exact hload

/-! ## Reading JSON -/

/-- What is read of a list is read of its elements. -/
theorem exists_of_mem_mapM {α β : Type} {f : α → Option β} :
    ∀ {xs : List α} {ys : List β}, xs.mapM f = some ys → ∀ y ∈ ys, ∃ x ∈ xs, f x = some y
  | [], ys, h, y, hy => by
    obtain rfl : [] = ys := by simpa using h
    cases hy
  | x :: xs, ys, h, y, hy => by
    rw [List.mapM_cons] at h
    obtain ⟨z, hz, h⟩ := Option.bind_eq_some_iff.1 h
    obtain ⟨zs, hzs, h⟩ := Option.bind_eq_some_iff.1 h
    obtain rfl : z :: zs = ys := Option.some.inj h
    rcases List.mem_cons.1 hy with rfl | hy
    · exact ⟨x, List.mem_cons_self, hz⟩
    · obtain ⟨x', hmem, hx'⟩ := exists_of_mem_mapM hzs y hy
      exact ⟨x', List.mem_cons_of_mem x hmem, hx'⟩

/-- Only the empty array is read as no values. -/
theorem jsonStrings?_eq_nil {json : Json} (h : jsonStrings? json = some []) : json = .array [] := by
  cases json with
  | array items =>
    cases items with
    | nil => rfl
    | cons item items =>
      rw [jsonStrings?, List.mapM_cons] at h
      obtain ⟨s, -, h⟩ := Option.bind_eq_some_iff.1 h
      obtain ⟨rest, -, h⟩ := Option.bind_eq_some_iff.1 h
      cases h
  | _ => cases h

/-- **An object without empty arrays is read as valued parameters.** -/
theorem valued_ofJsonValue? {members : List (String × Json)} {p : Params}
    (h : ofJsonValue? (.object members) = some p) (hfull : ∀ m ∈ members, m.2 ≠ .array []) :
    p.Valued := by
  obtain ⟨entries, hentries, rfl⟩ := Option.map_eq_some_iff.1 h
  refine valued_ofLists fun e he hnil => ?_
  obtain ⟨member, hmem, hread⟩ := exists_of_mem_mapM hentries e he
  obtain ⟨values, hvalues, rfl⟩ := Option.map_eq_some_iff.1 hread
  obtain rfl : values = [] := hnil
  exact hfull member hmem (jsonStrings?_eq_nil hvalues)

/-! ## Keys that are present -/

/--
**After every run a key is present only with a value**, if the parameters it reads from JSON are
such.

* Then just the empty parameters have the empty query string, and a query string is read as the
  parameters it was written from.
* Parameters that are not such fail both: a key is present without a value, and the query string
  is read as others.
* JSON is read as such parameters if no member of the object is an empty array.
-/
theorem contains_iff_of_reaches (p : Params) :
    (Reaches Valued empty p →
      (∀ k, p.contains k = (p.get? k).isSome) ∧ (p.isEmpty = true ↔ p.encode = "") ∧
        parse p.encode = p) ∧
    ((∀ k, p.contains k = (p.get? k).isSome) ↔ p.Valued) ∧
    (parse p.encode = p ↔ p.Valued) ∧
    (∀ members, ofJsonValue? (.object members) = some p →
      (∀ member ∈ members, member.2 ≠ .array []) → p.Valued) := by
  have hread : parse p.encode = p ↔ p.Valued := by rw [parse_encode, valued_iff_compact]
  refine ⟨fun h => ?_, valued_iff_contains.symm, hread, fun _ => valued_ofJsonValue?⟩
  have hp : p.Valued := h.valued valued_empty
  refine ⟨valued_iff_contains.1 hp, ?_, hread.2 hp⟩
  rw [isEmpty_iff, encode_eq_empty_iff, toPairs_eq_nil_iff, hp.compact_eq]

/-- A run that reads JSON and encodes a value whose encoder merges a query string. -/
theorem contains_iff_of_reaches_merged :
    let encoder : CustomEncoder := ⟨fun key p => ((p.add key "2").merge (parse "?c&a"), none)⟩
    let value := Value.map [(.text "b", .custom encoder false)]
    ∃ loaded, ofJson? "\x7b\"a\":[\"1\"]\x7d" = some loaded ∧
      Reaches Valued empty (value.encodeInto {} loaded).2 ∧
      (value.encodeInto {} loaded).2 = ofPairs [("a", "1"), ("a", ""), ("b", "2"), ("c", "")] ∧
      ∀ k, (value.encodeInto {} loaded).2.contains k
        = ((value.encodeInto {} loaded).2.get? k).isSome := by
  intro encoder value
  have hload : ofJson? "\x7b\"a\":[\"1\"]\x7d" = some (ofPairs [("a", "1")]) := by decide
  have hreach : Reaches Valued empty (value.encodeInto {} (ofPairs [("a", "1")])).2 := by
    refine .encodeInto {} value (.ofJson hload (valued_ofPairs _)) fun e he key r => ?_
    obtain rfl : e = encoder := by simpa [value, Value.encoders, Value.entryEncoders] using he
    exact .merge (.add key "2" .refl) (.parseBytes _)
  exact ⟨_, hload, hreach, by rfl, ((contains_iff_of_reaches _).1 hreach).1⟩

/-- A run that reads an empty array leaves its key without a value. -/
theorem ofJson?_empty_array :
    ∃ p, ofJson? "\x7b\"a\":[]\x7d" = some p ∧ Reaches (fun _ => True) empty p ∧
      p.contains "a" = true ∧ p.get? "a" = none ∧ p.isEmpty = false ∧ p.encode = "" ∧
      parse p.encode ≠ p := by
  have hload : ofJson? "\x7b\"a\":[]\x7d" = some (ofLists [("a", [])]) := by decide
  exact ⟨_, hload, .ofJson hload trivial, by decide⟩

end UrlQuery.Params
