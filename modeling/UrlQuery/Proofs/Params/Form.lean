import UrlQuery.Params.Form
import UrlQuery.Proofs.Params.Laws
import UrlQuery.Proofs.Text.Percent

/-!
# Form encoding, there and back

What is written as a query string is read as the parameters it was written from, less the keys
without values (`query_string_round_trip`).

The writer makes escapes first and then looks for `%20` in the text, the reader turns plus signs
into spaces first and then looks for escapes. Both orders are harmless: an escape ends before the
next begins and holds no `%` but its first, so `%20` in the text is the escape of a space
(`escape_eq`); and a plus sign in the text is never a plus sign of the component, which is escaped
(`decode_escapeChar`).

A component holds no separator (`isComponentChar_of_mem_escape`), so that cutting the text at the
separators undoes joining.
-/

namespace UrlQuery.Form

open Utf8 (bytesOf)

/-! ## The characters of a component -/

/-- The characters that are written for a component. -/
def isComponentChar (c : Char) : Bool :=
  isPlain c || c == '+' || c == '%'

/-- A plain character is a letter, a digit or one of four marks. -/
theorem isPlain_cases {c : Char} (h : isPlain c = true) :
    ('A' ≤ c ∧ c ≤ 'Z') ∨ ('a' ≤ c ∧ c ≤ 'z') ∨ ('0' ≤ c ∧ c ≤ '9') ∨
      c ∈ ['-', '_', '.', '~'] := by
  have heq : isPlain c
      = ((decide ('A' ≤ c ∧ c ≤ 'Z') || ('a' ≤ c && c ≤ 'z') || ('0' ≤ c && c ≤ '9'))
        || c == '-' || c == '_' || c == '.' || c == '~') := rfl
  rw [heq] at h
  simpa [or_assoc] using h

theorem toNat_lt_of_isPlain {c : Char} (h : isPlain c = true) : c.toNat < 0x80 := by
  rcases isPlain_cases h with ⟨_, h⟩ | ⟨_, h⟩ | ⟨_, h⟩ | h
  · exact Nat.lt_of_le_of_lt h (by decide)
  · exact Nat.lt_of_le_of_lt h (by decide)
  · exact Nat.lt_of_le_of_lt h (by decide)
  · simp only [List.mem_cons, List.not_mem_nil, or_false] at h
    rcases h with rfl | rfl | rfl | rfl <;> decide

theorem isPlain_of_isUpperHex {c : Char} (h : Percent.isUpperHex c = true) : isPlain c = true := by
  have heq : isPlain c
      = ((decide ('A' ≤ c ∧ c ≤ 'Z') || ('a' ≤ c && c ≤ 'z') || ('0' ≤ c && c ≤ '9'))
        || c == '-' || c == '_' || c == '.' || c == '~') := rfl
  simp only [Percent.isUpperHex, Bool.or_eq_true, Bool.and_eq_true, decide_eq_true_eq] at h
  rcases h with ⟨hl, hr⟩ | ⟨hl, hr⟩
  · simp [heq, hl, hr]
  · have hz : c ≤ 'Z' := Char.le_trans hr (by decide)
    simp [heq, hl, hz]

theorem isPlain_hexDigit {n : Nat} (h : n < 16) : isPlain (Percent.hexDigit n) = true :=
  isPlain_of_isUpperHex (Percent.isUpperHex_hexDigit h)

theorem ne_percent_of_isPlain {c : Char} (h : isPlain c = true) : c ≠ '%' := by
  rintro rfl
  revert h
  decide

/-! ## Escapes and spaces -/

theorem spaceToPlus_cons_of_ne {c : Char} (h : c ≠ '%') (rest : List Char) :
    spaceToPlus (c :: rest) = c :: spaceToPlus rest := by
  rw [spaceToPlus]
  intro _ hc
  exact absurd hc h

/-- The escape of another byte than the space is no `%20`, and none begins inside of it. -/
theorem spaceToPlus_escapeByte {b : UInt8} (h : b ≠ 0x20) (rest : List Char) :
    spaceToPlus (Percent.escapeByte b ++ rest) = Percent.escapeByte b ++ spaceToPlus rest := by
  have hb : b.toNat < 256 := b.toNat_lt
  have hhigh : b.toNat / 16 < 16 := by omega
  have hlow : b.toNat % 16 < 16 := by omega
  have hne : ¬ (Percent.hexDigit (b.toNat / 16) = '2' ∧ Percent.hexDigit (b.toNat % 16) = '0') := by
    rintro ⟨h2, h0⟩
    have hdiv : b.toNat / 16 = 2 := Percent.hexDigit_inj hhigh (by decide) h2
    have hmod : b.toNat % 16 = 0 := Percent.hexDigit_inj hlow (by decide) h0
    exact h (UInt8.toNat_inj.1 (show b.toNat = 32 by omega))
  simp only [Percent.escapeByte, List.cons_append, List.nil_append]
  rw [spaceToPlus, spaceToPlus_cons_of_ne (ne_percent_of_isPlain (isPlain_hexDigit hhigh)),
    spaceToPlus_cons_of_ne (ne_percent_of_isPlain (isPlain_hexDigit hlow))]
  intro tail _ htail
  injection htail with h2 htail
  injection htail with h0 _
  exact hne ⟨h2, h0⟩

theorem spaceToPlus_escapeBytes :
    ∀ {bs : List UInt8}, (∀ b ∈ bs, b ≠ 0x20) → ∀ rest : List Char,
      spaceToPlus (bs.flatMap Percent.escapeByte ++ rest)
        = bs.flatMap Percent.escapeByte ++ spaceToPlus rest
  | [], _, rest => rfl
  | b :: bs, h, rest => by
    rw [List.flatMap_cons, List.append_assoc, spaceToPlus_escapeByte (h b List.mem_cons_self),
      spaceToPlus_escapeBytes (fun x hx => h x (List.mem_cons_of_mem _ hx)), List.append_assoc]

/-- What one character becomes in the end. -/
def escapeChar (c : Char) : List Char :=
  if isPlain c then [c] else if c = ' ' then ['+'] else Percent.escapeChar c

/-- **A component is written character by character**: `%20` stands only for a space. -/
theorem escape_eq (s : String) : escape s = s.toList.flatMap escapeChar := by
  unfold escape
  generalize s.toList = cs
  induction cs with
  | nil => rfl
  | cons c cs ih =>
    have hcons : Percent.encode isPlain (c :: cs)
        = (if isPlain c then [c] else Percent.escapeChar c) ++ Percent.encode isPlain cs :=
      List.flatMap_cons
    rw [hcons, List.flatMap_cons, ← ih]
    unfold escapeChar
    by_cases hp : isPlain c = true
    · rw [if_pos hp, if_pos hp]
      exact spaceToPlus_cons_of_ne (ne_percent_of_isPlain hp) _
    · rw [if_neg hp, if_neg hp]
      by_cases hs : c = ' '
      · subst hs
        rfl
      · rw [if_neg hs]
        -- The byte of a space stands for a space alone, so no byte of `c` is written as `%20`.
        refine spaceToPlus_escapeBytes (fun b hb h20 => hs ?_) _
        rw [h20] at hb
        have hspace : ' ' ∈ [c] :=
          (Utf8.mem_bytesOf_iff (a := ' ') (by decide)).1 (by simpa using hb)
        exact (List.mem_singleton.1 hspace).symm

/-! ## Reading a component -/

theorem plusToSpace_hexByte {n : Nat} (h : n < 16) :
    plusToSpace (Percent.hexByte n) = Percent.hexByte n := by
  have hall : ∀ m ∈ List.range 16, plusToSpace (Percent.hexByte m) = Percent.hexByte m := by decide
  exact hall n (List.mem_range.2 h)

theorem decode_escapeBytes :
    ∀ (bs rest : List UInt8),
      Percent.decode ((bytesOf (bs.flatMap Percent.escapeByte) ++ rest).map plusToSpace)
        = bs ++ Percent.decode (rest.map plusToSpace)
  | [], rest => rfl
  | b :: bs, rest => by
    have hb : b.toNat < 256 := b.toNat_lt
    have hpercent : plusToSpace 0x25 = 0x25 := by decide
    rw [List.flatMap_cons, Utf8.bytesOf_append, Percent.bytesOf_escapeByte]
    simp only [List.cons_append, List.nil_append, List.map_cons, hpercent,
      plusToSpace_hexByte (show b.toNat / 16 < 16 by omega),
      plusToSpace_hexByte (show b.toNat % 16 < 16 by omega)]
    rw [Percent.decode_escapeByte, decode_escapeBytes bs rest]

/-- The byte of a plain character is that of no other ASCII character. -/
theorem byte_ne_of_isPlain {c a : Char} (hc : isPlain c = true) (ha : isPlain a = false)
    (hlt : a.toNat < 0x80) : UInt8.ofNat c.toNat ≠ UInt8.ofNat a.toNat := by
  intro h
  have hmem : UInt8.ofNat a.toNat ∈ bytesOf [c] := by
    rw [Utf8.bytesOf_cons, Utf8.encodeChar_ascii (toNat_lt_of_isPlain hc), h]
    exact List.mem_cons_self
  have heq : a = c := List.mem_singleton.1 ((Utf8.mem_bytesOf_iff hlt).1 hmem)
  rw [heq, hc] at ha
  cases ha

/-- **What one character became is read as its bytes**, whatever follows. -/
theorem decode_escapeChar (c : Char) (rest : List UInt8) :
    Percent.decode ((bytesOf (escapeChar c) ++ rest).map plusToSpace)
      = String.utf8EncodeChar c ++ Percent.decode (rest.map plusToSpace) := by
  unfold escapeChar
  split
  · next hp =>
    -- A plain character is its own byte, which neither pass of the reader looks for.
    have hplus : UInt8.ofNat c.toNat ≠ 0x2B :=
      byte_ne_of_isPlain (a := '+') hp (by decide) (by decide)
    have hpercent : UInt8.ofNat c.toNat ≠ 0x25 :=
      byte_ne_of_isPlain (a := '%') hp (by decide) (by decide)
    rw [Utf8.bytesOf_cons, Utf8.encodeChar_ascii (toNat_lt_of_isPlain hp), Utf8.bytesOf_nil,
      List.append_nil, List.singleton_append, List.map_cons, plusToSpace, if_neg hplus,
      Percent.decode_cons_of_ne hpercent, List.singleton_append]
  · split
    · next hs =>
      subst hs
      exact Percent.decode_cons_of_ne (by decide) _
    · exact decode_escapeBytes _ rest

theorem decode_escapeChars :
    ∀ (cs : List Char),
      Percent.decode ((bytesOf (cs.flatMap escapeChar)).map plusToSpace) = bytesOf cs
  | [] => rfl
  | c :: cs => by
    rw [List.flatMap_cons, Utf8.bytesOf_append, decode_escapeChar, decode_escapeChars cs,
      Utf8.bytesOf_cons]

/-- **A component is read as it was written.** -/
theorem unescape_escape (s : String) : unescape (bytesOf (escape s)) = s := by
  rw [unescape, escape_eq, decode_escapeChars]
  exact Utf8.decode_encode s

/-! ## No separator in a component -/

theorem isComponentChar_of_mem_escapeByte {b : UInt8} {d : Char}
    (h : d ∈ Percent.escapeByte b) : isComponentChar d = true := by
  rcases Percent.mem_escapeByte h with rfl | hdigit
  · decide
  · rw [isComponentChar, isPlain_of_isUpperHex hdigit]
    rfl

theorem isComponentChar_of_mem_escape {s : String} {d : Char} (h : d ∈ escape s) :
    isComponentChar d = true := by
  rw [escape_eq] at h
  obtain ⟨c, _, hd⟩ := List.mem_flatMap.1 h
  unfold escapeChar at hd
  split at hd
  · next hp => rw [List.mem_singleton.1 hd, isComponentChar, hp]; rfl
  · split at hd
    · rw [List.mem_singleton.1 hd]; decide
    · obtain ⟨b, _, hb⟩ := List.mem_flatMap.1 hd
      exact isComponentChar_of_mem_escapeByte hb

/-- A character that no component is written with is not in one. -/
theorem not_mem_escape {a : Char} (ha : isComponentChar a = false) (s : String) : a ∉ escape s := by
  intro h
  rw [isComponentChar_of_mem_escape h] at ha
  cases ha

/-- A byte of a component is that of no other ASCII character. -/
theorem byte_ne_of_mem_escape {a : Char} (ha : a.toNat < 0x80) (hc : isComponentChar a = false)
    {s : String} {b : UInt8} (hb : b ∈ bytesOf (escape s)) : b ≠ UInt8.ofNat a.toNat := by
  rintro rfl
  exact not_mem_escape hc s ((Utf8.mem_bytesOf_iff ha).1 hb)

/-! ## Pairs -/

theorem bytesOf_encodePair (kv : String × String) :
    bytesOf (encodePair kv) = bytesOf (escape kv.1) ++ 0x3D :: bytesOf (escape kv.2) := by
  rw [encodePair, Utf8.bytesOf_append, Utf8.bytesOf_cons]
  rfl

/-- **A pair is read as it was written.** -/
theorem decodePair_encodePair (kv : String × String) :
    decodePair (bytesOf (encodePair kv)) = kv := by
  have hkey : ∀ b ∈ bytesOf (escape kv.1), (b != 0x3D) = true := fun b hb =>
    bne_iff_ne.2 (byte_ne_of_mem_escape (a := '=') (by decide) (by decide) hb)
  rw [decodePair, bytesOf_encodePair, List.takeWhile_append_of_pos hkey,
    List.dropWhile_append_of_pos hkey]
  simp [unescape_escape]

theorem not_mem_encodePair {a : Char} (ha : isComponentChar a = false) (hne : a ≠ '=')
    (kv : String × String) : a ∉ encodePair kv := by
  rw [encodePair, List.mem_append, List.mem_cons]
  rintro (h | h | h)
  · exact not_mem_escape ha kv.1 h
  · exact hne h
  · exact not_mem_escape ha kv.2 h

theorem bytesOf_encodePairs :
    ∀ pairs : List (String × String),
      bytesOf (encodePairs pairs) = [0x26].intercalate (pairs.map fun kv => bytesOf (encodePair kv))
  | [] => rfl
  | [kv] => by simp [encodePairs]
  | kv :: kv' :: rest => by
    have ih := bytesOf_encodePairs (kv' :: rest)
    have hamp : String.utf8EncodeChar '&' = [0x26] := rfl
    simp only [encodePairs, List.map_cons, List.intercalate_cons_cons, Utf8.bytesOf_append,
      Utf8.bytesOf_cons, Utf8.bytesOf_nil, List.append_nil, hamp] at ih ⊢
    rw [ih]

/-- **Pairs are read as they were written.** -/
theorem decodePairs_encodePairs (pairs : List (String × String)) :
    decodePairs (bytesOf (encodePairs pairs)) = pairs := by
  rw [bytesOf_encodePairs, decodePairs]
  cases pairs with
  | nil => rfl
  | cons kv rest =>
    have hamp : ∀ piece ∈ (kv :: rest).map fun kv => bytesOf (encodePair kv), 0x26 ∉ piece := by
      intro piece hpiece h
      obtain ⟨kv', _, rfl⟩ := List.mem_map.1 hpiece
      exact not_mem_encodePair (by decide) (by decide) kv'
        ((Utf8.mem_bytesOf_iff (a := '&') (by decide)).1 h)
    have hfull : ∀ piece ∈ (kv :: rest).map fun kv => bytesOf (encodePair kv),
        (!piece.isEmpty) = true := by
      intro piece hpiece
      obtain ⟨kv', _, rfl⟩ := List.mem_map.1 hpiece
      rw [bytesOf_encodePair]
      simp
    rw [List.splitOn_intercalate _ hamp (by simp), List.filter_eq_self.2 hfull, List.map_map]
    simp [Function.comp_def, decodePair_encodePair]

/-! ## The text of a query -/

/-- The characters of a query that stand for themselves, for a space or for a separator. -/
def isQueryChar (c : Char) : Bool :=
  ('A' ≤ c && c ≤ 'Z') || ('a' ≤ c && c ≤ 'z') || ('0' ≤ c && c ≤ '9') ||
    ['-', '_', '.', '~', '+', '=', '&'].contains c

/-- Texts of such characters and of escapes with two upper-case digits. -/
inductive IsQueryText : List Char → Prop where
  | nil : IsQueryText []
  | char {c : Char} {rest : List Char} (hc : isQueryChar c = true) (h : IsQueryText rest) :
    IsQueryText (c :: rest)
  | escape {x y : Char} {rest : List Char} (hx : Percent.isUpperHex x = true)
    (hy : Percent.isUpperHex y = true) (h : IsQueryText rest) :
    IsQueryText ('%' :: x :: y :: rest)

theorem IsQueryText.append {a b : List Char} (ha : IsQueryText a) (hb : IsQueryText b) :
    IsQueryText (a ++ b) := by
  induction ha with
  | nil => exact hb
  | char hc _ ih => exact .char hc ih
  | escape hx hy _ ih => exact .escape hx hy ih

theorem IsQueryText.flatMap {α : Type} {f : α → List Char} (hf : ∀ x, IsQueryText (f x)) :
    ∀ l : List α, IsQueryText (l.flatMap f)
  | [] => .nil
  | x :: l => by
    rw [List.flatMap_cons]
    exact (hf x).append (IsQueryText.flatMap hf l)

theorem isQueryChar_of_isPlain {c : Char} (h : isPlain c = true) : isQueryChar c = true := by
  rcases isPlain_cases h with ⟨hl, hr⟩ | ⟨hl, hr⟩ | ⟨hl, hr⟩ | h
  · simp [isQueryChar, hl, hr]
  · simp [isQueryChar, hl, hr]
  · simp [isQueryChar, hl, hr]
  · simp only [List.mem_cons, List.not_mem_nil, or_false] at h
    rcases h with rfl | rfl | rfl | rfl <;> decide

theorem isQueryChar_of_isUpperHex {c : Char} (h : Percent.isUpperHex c = true) :
    isQueryChar c = true :=
  isQueryChar_of_isPlain (isPlain_of_isUpperHex h)

/-- A query text holds no other characters than those and the percent sign. -/
theorem IsQueryText.not_mem {a : Char} (ha : isQueryChar a = false) (hne : a ≠ '%')
    {cs : List Char} (h : IsQueryText cs) : a ∉ cs := by
  have hother : ∀ {c : Char}, isQueryChar c = true → a ≠ c := by
    rintro c hc rfl
    rw [ha] at hc
    cases hc
  induction h with
  | nil => exact List.not_mem_nil
  | char hc _ ih => exact List.not_mem_cons_of_ne_of_not_mem (hother hc) ih
  | escape hx hy _ ih =>
    exact List.not_mem_cons_of_ne_of_not_mem hne
      (List.not_mem_cons_of_ne_of_not_mem (hother (isQueryChar_of_isUpperHex hx))
        (List.not_mem_cons_of_ne_of_not_mem (hother (isQueryChar_of_isUpperHex hy)) ih))

theorem isQueryText_escapeByte (b : UInt8) : IsQueryText (Percent.escapeByte b) := by
  have hb : b.toNat < 256 := b.toNat_lt
  have hhigh := Percent.isUpperHex_hexDigit (show b.toNat / 16 < 16 by omega)
  have hlow := Percent.isUpperHex_hexDigit (show b.toNat % 16 < 16 by omega)
  exact .escape hhigh hlow .nil

theorem isQueryText_escape (s : String) : IsQueryText (escape s) := by
  rw [escape_eq]
  refine IsQueryText.flatMap (fun c => ?_) _
  unfold escapeChar
  split
  · next hp => exact .char (isQueryChar_of_isPlain hp) .nil
  · split
    · exact .char (by decide) .nil
    · exact IsQueryText.flatMap isQueryText_escapeByte _

theorem isQueryText_encodePair (kv : String × String) : IsQueryText (encodePair kv) :=
  (isQueryText_escape kv.1).append (.char (by decide) (isQueryText_escape kv.2))

theorem isQueryText_encodePairs : ∀ pairs : List (String × String), IsQueryText (encodePairs pairs)
  | [] => .nil
  | [kv] => by
    rw [encodePairs, List.map_singleton, List.intercalate_singleton]
    exact isQueryText_encodePair kv
  | kv :: kv' :: rest => by
    have ih := isQueryText_encodePairs (kv' :: rest)
    rw [encodePairs, List.map_cons, List.map_cons, List.intercalate_cons_cons, List.append_assoc]
    exact (isQueryText_encodePair kv).append (.char (by decide) ih)

end UrlQuery.Form

namespace UrlQuery.Params

open Form

/-- Question marks are dropped in front alone. -/
theorem dropWhile_mark {bytes : List UInt8} (h : bytes.head? ≠ some 0x3F) :
    bytes.dropWhile (· == 0x3F) = bytes := by
  cases bytes with
  | nil => rfl
  | cons b rest => exact List.dropWhile_cons_of_neg (by simpa using h)

/-- The text of a query holds no question mark that reading would drop. -/
theorem head?_bytesOf_encodePairs (pairs : List (String × String)) :
    (Utf8.bytesOf (encodePairs pairs)).head? ≠ some 0x3F := by
  have hmark : UInt8.ofNat '?'.toNat ∉ Utf8.bytesOf (encodePairs pairs) := by
    rw [Utf8.mem_bytesOf_iff (by decide)]
    exact (isQueryText_encodePairs pairs).not_mem (by decide) (by decide)
  exact fun h => hmark (List.mem_of_mem_head? h)

theorem parse_encode (p : Params) : Params.parse p.encode = p.compact := by
  rw [parse, encode, Utf8.encode_ofList, parseBytes,
    dropWhile_mark (head?_bytesOf_encodePairs p.toPairs), decodePairs_encodePairs, ofPairs_toPairs]

theorem encode_eq_empty_iff {p : Params} : p.encode = "" ↔ p.toPairs = [] := by
  constructor
  · intro h
    have hread := decodePairs_encodePairs p.toPairs
    rw [← Utf8.encode_ofList, ← encode, h] at hread
    exact hread.symm
  · intro h
    rw [encode, h]
    rfl

theorem isQueryText_encode (p : Params) : IsQueryText p.encode.toList := by
  rw [encode, String.toList_ofList]
  exact isQueryText_encodePairs _

/--
**A query string is read as the parameters it was written from**, less the keys without values;
so as those parameters themselves just if each key has a value. The string consists of characters
that stand for themselves, plus signs, separators and escapes with upper-case digits.
-/
theorem query_string_round_trip (p : Params) :
    Params.parse p.encode = p.compact ∧
      (Params.parse p.encode = p ↔ ∀ e ∈ p.entries, e.2 ≠ []) ∧
      IsQueryText p.encode.toList := by
  refine ⟨parse_encode p, ?_, isQueryText_encode p⟩
  rw [parse_encode]
  exact compact_eq_self_iff p

end UrlQuery.Params
