import UrlQuery.Proofs.Encoding.Keys
import UrlQuery.Proofs.Params.Form
import UrlQuery.Proofs.Params.Valued

/-!
# Encoding again

Parameters are values themselves: a map from keys to sequences of text. Encoding them writes their
pairs, whatever the configuration, so it leaves what they merge to, less the keys without values
(`encodeInto_ofParams`). Encoding leaves no key without values, as long as the encoders in the
value add, set and remove (`encode_valued`). So what was encoded is encoded as itself, and its
query string too (`Value.encode_again`).
-/

namespace UrlQuery

/--
With any key and parameters, the encoder does nothing but add, set and remove, and then succeeds or
fails. It may look at the parameters.
-/
def CustomEncoder.Edits (encoder : CustomEncoder) : Prop :=
  ∀ key p, Params.Edited p (encoder.run key p).1

/-- A list of writes edits. -/
theorem CustomEncoder.edits_ofWrites (writes : List Write) : (ofWrites writes).Edits := by
  intro key p
  have hrun : ∀ (writes : List Write) {q : Params}, Params.Edited p q →
      Params.Edited p (runWrites key writes q).1 := by
    intro writes
    induction writes with
    | nil => exact id
    | cons write rest ih =>
      intro q hq
      cases write with
      | add suffix value => exact ih (hq.add _ _)
      | set suffix value => exact ih (hq.set _ _)
      | erase suffix => exact ih (hq.erase _)
      | fail message => exact hq
  exact hrun writes .refl

namespace Encoding

/-! ## Encoding keeps parameters valued -/

theorem encode_valued {config : Config} {value : Value} {p : Params}
    (h : ∀ encoder ∈ value.encoders, encoder.Edits) (hp : value.encode config = .ok p) :
    p.Valued := by
  have hkeeps : ∀ encoder ∈ value.encoders, encoder.Keeps Params.Valued :=
    fun encoder hmem key q hq => (h encoder hmem key q).valued hq
  have hvalued := keeps_encodeInto (fun _ key v hq => hq.add key v) config hkeeps
    Params.valued_empty
  rw [encode_eq_ok_iff] at hp
  rwa [hp] at hvalued

/-! ## The steps of parameters -/

theorem outcome_writes (limit : Nat) (pairs : List (String × String)) (p : Params) :
    outcome limit (pairs.map fun kv => .write kv.1 kv.2) p = (.ok (), p.addPairs pairs) := by
  induction pairs generalizing p with
  | nil => rfl
  | cons kv rest ih =>
    rw [List.map_cons, outcome_cons, outcome_write, Outcome.andThen_ok, ih]
    rfl

theorem entrySteps_ofParams (join : ScopeJoin) :
    ∀ entries : List Entry,
      entrySteps join {} "" 0 (entries.map fun e => (.text e.1, .seq (e.2.map .text)))
        = (entries.flatMap fun e => e.2.map fun v => (e.1, v)).map fun kv => .write kv.1 kv.2
  | [] => by rw [List.map_nil, entrySteps]; rfl
  | (key, values) :: rest => by
    rw [List.map_cons, entrySteps, entrySteps_ofParams join rest, List.flatMap_cons,
      List.map_append, List.map_map]
    congr 1
    cases values with
    | nil => rfl
    | cons value values =>
      have hkey : join.join "" ((Value.text key).render {}) = key := by
        simp [ScopeJoin.join, Value.render]
      have hempty : (Value.seq ((value :: values).map .text)).isEmpty = false := rfl
      rw [hkey, hempty, if_neg (by simp)]
      exact valueSteps_texts join key key 0 (value :: values)

/-- **Encoding parameters merges them**, less their keys without values. -/
theorem encodeInto_ofParams (config : Config) (v p : Params) :
    (Value.ofParams v).encodeInto config p = (.ok (), p.merge v.compact) := by
  rw [Value.ofParams, encodeInto_map, entrySteps_ofParams, outcome_writes, ← Params.toPairs,
    Params.addPairs_eq_merge, Params.ofPairs_toPairs]

theorem encodeInto_text (config : Config) (query : String) (p : Params) :
    (Value.text query).encodeInto config p = (.ok (), p.merge (Params.parse query)) := rfl

end Encoding

open Encoding

/--
**Encoding again changes nothing.**

* Parameters are encoded, under any configuration and into any others, by merging them, less their
  keys without values.
* What a value was encoded as is encoded as itself, and so is its query string.
-/
theorem Value.encode_again :
    (∀ (config : Config) (v p : Params),
      (Value.ofParams v).encodeInto config p = (.ok (), p.merge v.compact)) ∧
    (∀ (config config' : Config) (value : Value) (v : Params),
      (∀ encoder ∈ value.encoders, encoder.Edits) → value.encode config = .ok v →
        (Value.ofParams v).encode config' = .ok v ∧
          (Value.text v.encode).encode config' = .ok v) := by
  refine ⟨encodeInto_ofParams, fun config config' value v hedits hv => ?_⟩
  have hcompact : v.compact = v := (encode_valued hedits hv).compact_eq
  constructor
  · rw [encode_eq_ok_iff, encodeInto_ofParams, hcompact, Params.empty_merge]
  · rw [encode_eq_ok_iff, encodeInto_text, Params.parse_encode, hcompact, Params.empty_merge]

/-- An encoder that sets and removes what was written before it. -/
theorem Value.encode_again_edited :
    let value := Value.map [(.text "a", .text "1"),
      (.text "b", .custom (.ofWrites [.add "" "x", .set "[c d]" "", .erase ""]) false)]
    let v := Params.ofPairs [("a", "1"), ("b[c d]", "")]
    (∀ encoder ∈ value.encoders, encoder.Edits) ∧ value.encode {} = .ok v ∧
      (Value.ofParams v).encode { maxDepth := 0, scopeJoin := .dots } = .ok v ∧
      (Value.text v.encode).encode { maxDepth := 0, scopeJoin := .dots } = .ok v := by
  intro value v
  have hedits : ∀ encoder ∈ value.encoders, encoder.Edits := by
    intro encoder hmem
    have heq : encoder = .ofWrites [.add "" "x", .set "[c d]" "", .erase ""] := by
      simpa [value, Value.encoders, Value.entryEncoders] using hmem
    rw [heq]
    exact CustomEncoder.edits_ofWrites _
  have hv : value.encode {} = .ok v := by rfl
  exact ⟨hedits, hv, Value.encode_again.2 {} _ value v hedits hv⟩

end UrlQuery
