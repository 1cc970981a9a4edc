import UrlQuery.Proofs.Params.Form
import UrlQuery.Proofs.Params.Valued

/-!
# Query strings in parts

A query string is read part by part: two parts with a separator between them are read as the two
are, one merged behind the other (`parseBytes_append`). Only question marks in front of all are
dropped, so the second part must not begin with one. No other part of a text reaches across a
separator: it ends an escape that is cut short and a pair without a value. This holds of all bytes,
and what is read has no key without a value (`parseBytes_parts`). So parameters can be appended to
any query string (`parse_append_encode`).

A text of plain characters is a key without a value (`parse_of_isPlain`).
-/

namespace UrlQuery

namespace Form

/-- The pieces on both sides of a separator are read on their own. -/
theorem decodePairs_append (a b : List UInt8) :
    decodePairs (a ++ 0x26 :: b) = decodePairs a ++ decodePairs b := by
  unfold decodePairs List.splitOn
  rw [List.splitOnP_append_cons a b (by decide), List.filter_append, List.map_append]

/-! ## A key alone -/

/-- A text of plain characters is written as it is. -/
theorem escape_of_isPlain {s : String} (h : ∀ c ∈ s.toList, isPlain c = true) :
    escape s = s.toList := by
  rw [escape_eq]
  generalize s.toList = cs at h
  induction cs with
  | nil => rfl
  | cons c cs ih =>
    obtain ⟨hc, hcs⟩ := List.forall_mem_cons.1 h
    rw [List.flatMap_cons, ih hcs, escapeChar, if_pos hc, List.singleton_append]

/-- A component that stands alone is a key without a value. -/
theorem decodePairs_escape {s : String} (hne : s ≠ "") :
    decodePairs (Utf8.bytesOf (escape s)) = [(s, "")] := by
  have hpiece : ∀ b ∈ Utf8.bytesOf (escape s), (b == 0x26) = false := fun b hb =>
    beq_eq_false_iff_ne.2 (byte_ne_of_mem_escape (a := '&') (by decide) (by decide) hb)
  have hkey : ∀ b ∈ Utf8.bytesOf (escape s), (b != 0x3D) = true := fun b hb =>
    bne_iff_ne.2 (byte_ne_of_mem_escape (a := '=') (by decide) (by decide) hb)
  have hfull : Utf8.bytesOf (escape s) ≠ [] := by
    intro hnil
    have hread := unescape_escape s
    rw [hnil] at hread
    exact hne hread.symm
  rw [decodePairs, List.splitOn, List.splitOnP_eq_singleton hpiece,
    List.filter_cons_of_pos (by simpa using hfull), List.filter_nil, List.map_singleton, decodePair,
    ← List.append_nil (Utf8.bytesOf (escape s)), List.takeWhile_append_of_pos hkey,
    List.dropWhile_append_of_pos hkey, List.takeWhile_nil, List.append_nil, unescape_escape]
  rfl

end Form

namespace Params

/-! ## Parts -/

/-- Question marks are dropped in front of the first part alone, as a separator ends them. -/
theorem dropWhile_append_separator (a b : List UInt8) :
    (a ++ 0x26 :: b).dropWhile (· == 0x3F) = a.dropWhile (· == 0x3F) ++ 0x26 :: b := by
  induction a with
  | nil => rfl
  | cons c a ih =>
    rw [List.cons_append, List.dropWhile_cons, List.dropWhile_cons, ih]
    split <;> rfl

/-- **A query string is read part by part**, if the second part begins with no question mark. -/
theorem parseBytes_append {b : List UInt8} (h : b.head? ≠ some 0x3F) (a : List UInt8) :
    parseBytes (a ++ 0x26 :: b) = (parseBytes a).merge (parseBytes b) := by
  rw [parseBytes, dropWhile_append_separator, Form.decodePairs_append, ofPairs_append, parseBytes,
    parseBytes, dropWhile_mark h]

/-- Any number of question marks in front is dropped. -/
theorem parseBytes_marks (n : Nat) (a : List UInt8) :
    parseBytes (List.replicate n 0x3F ++ a) = parseBytes a := by
  have hmarks : ∀ b ∈ List.replicate n (0x3F : UInt8), (b == 0x3F) = true := by
    intro b hb
    rw [List.eq_of_mem_replicate hb]
    rfl
  rw [parseBytes, List.dropWhile_append_of_pos hmarks, parseBytes]

/--
**Reading a query string is compositional**, whatever its bytes are. Two parts with a separator
between them are read as the second merged behind the first, if the second begins with no question
mark; question marks in front do not count; and no key is left without a value.
-/
theorem parseBytes_parts :
    (∀ a b : List UInt8, b.head? ≠ some 0x3F →
      parseBytes (a ++ 0x26 :: b) = (parseBytes a).merge (parseBytes b)) ∧
      (∀ (n : Nat) (a : List UInt8), parseBytes (List.replicate n 0x3F ++ a) = parseBytes a) ∧
      ∀ a : List UInt8, (parseBytes a).Valued :=
  ⟨fun a _ hmark => parseBytes_append hmark a, parseBytes_marks, fun _ => valued_ofPairs _⟩

/-- An escape cut short at the separator, an empty piece, and a byte that is no UTF-8. -/
theorem parseBytes_parts_malformed :
    let a : List UInt8 := [0x3F, 0x61, 0x3D, 0x25, 0x34]
    let b : List UInt8 := [0x31, 0x26, 0x26, 0x61, 0x3D, 0xFF]
    b.head? ≠ some 0x3F ∧ parseBytes (a ++ 0x26 :: b) = (parseBytes a).merge (parseBytes b) ∧
      parseBytes (List.replicate 2 0x3F ++ (a ++ 0x26 :: b))
        = ofPairs [("a", "%4"), ("1", ""), ("a", "\uFFFD")] ∧
      (parseBytes (a ++ 0x26 :: b)).Valued := by
  intro a b
  have hmark : b.head? ≠ some 0x3F := by decide
  obtain ⟨hparts, hmarks, hvalued⟩ := parseBytes_parts
  refine ⟨hmark, hparts a b hmark, ?_, hvalued _⟩
  rw [hmarks]
  decide

/-- **What is appended to a query string is merged behind what it holds.** -/
theorem parse_append_encode (query : String) (p : Params) :
    parse (query ++ "&" ++ p.encode) = (parse query).merge p.compact := by
  have hbytes : Utf8.encode (query ++ "&" ++ p.encode)
      = Utf8.encode query ++ 0x26 :: Utf8.encode p.encode := by
    unfold Utf8.encode
    rw [String.toList_append, String.toList_append, List.flatMap_append, List.flatMap_append,
      List.append_assoc]
    rfl
  have hmark : (Utf8.encode p.encode).head? ≠ some 0x3F := by
    rw [encode, Utf8.encode_ofList]
    exact head?_bytesOf_encodePairs p.toPairs
  rw [parse, hbytes, parseBytes_append hmark, ← parse, ← parse, parse_encode]

/-- A plain text is a key without a value. -/
theorem parse_of_isPlain {s : String} (hne : s ≠ "") (h : ∀ c ∈ s.toList, Form.isPlain c = true) :
    parse s = empty.add s "" := by
  have hbytes : Utf8.encode s = Utf8.bytesOf (Form.escape s) := by
    rw [Form.escape_of_isPlain h]
    rfl
  have hmark : (Utf8.bytesOf (Form.escape s)).head? ≠ some 0x3F := fun h =>
    Form.byte_ne_of_mem_escape (a := '?') (by decide) (by decide) (List.mem_of_mem_head? h) rfl
  rw [parse, parseBytes, hbytes, dropWhile_mark hmark, Form.decodePairs_escape hne]
  rfl

end Params

end UrlQuery
