import UrlQuery.Text.Utf8

/-!
# Reading back UTF-8

Text that was written is read as it was (`decode_encode`). The reader takes the bytes of one
character to that character, whatever follows (`run_encodeChar`): the first byte sets the bounds of
the second so that every scalar value fits, and each byte behind it adds six bits (`run_tail`).

An ASCII character is one byte, and that byte stands for nothing else (`mem_bytesOf_iff`). So a
separator can be looked for in the bytes as well as in the text.
-/

namespace UrlQuery.Utf8

/-! ## The reader, byte by byte -/

theorem run_cons (state : Option Pending) (b : UInt8) (rest : List UInt8) :
    run state (b :: rest) = (step state b.toNat).1 ++ run (step state b.toNat).2 rest := by
  cases state <;> rfl

theorem toNat_ofNat_of_lt {n : Nat} (h : n < 256) : (UInt8.ofNat n).toNat = n := by
  simp only [UInt8.toNat_ofNat']
  omega

/-- A byte within the bounds is the next six bits of the character. -/
theorem run_tail {owed low high bits n : Nat} (hn : n < 64) (hlow : low ≤ 0x80 + n)
    (hhigh : 0x80 + n ≤ high) (rest : List UInt8) :
    run (some ⟨owed, low, high, bits⟩) (UInt8.ofNat (n + 0x80) :: rest)
      = if owed ≤ 1 then Char.ofNat (bits * 64 + n) :: run none rest
        else run (some ⟨owed - 1, 0x80, 0xBF, bits * 64 + n⟩) rest := by
  have hmem : low ≤ n + 0x80 ∧ n + 0x80 ≤ high := by omega
  rw [run_cons, toNat_ofNat_of_lt (by omega)]
  simp only [step, if_pos hmem, Nat.add_sub_cancel]
  split <;> rfl

theorem start_two {n : Nat} (h1 : 2 ≤ n) (h2 : n < 32) :
    start (n + 0xC0) = ([], some ⟨1, 0x80, 0xBF, n⟩) := by
  unfold start
  rw [if_neg (by omega), if_neg (by omega), if_pos (by omega), Nat.add_sub_cancel]

/-- The first byte of three: its bounds shut out shorter forms and surrogates, and no more. -/
theorem start_three {v : Nat} (h1 : 0x800 ≤ v) (h2 : v < 0x10000)
    (hs : v < 0xD800 ∨ 0xDFFF < v) :
    ∃ low high, start (v / 4096 + 0xE0) = ([], some ⟨2, low, high, v / 4096⟩) ∧
      low ≤ 0x80 + v / 64 % 64 ∧ 0x80 + v / 64 % 64 ≤ high := by
  unfold start
  rw [if_neg (by omega), if_neg (by omega), if_neg (by omega)]
  by_cases h0 : v / 4096 = 0
  · -- Behind 0xE0 the bounds shut out what fits into two bytes, behind 0xED the surrogates.
    exact ⟨0xA0, 0xBF, by rw [if_pos (by omega), h0], by omega, by omega⟩
  · rw [if_neg (by omega)]
    by_cases hd : v / 4096 = 0xD
    · exact ⟨0x80, 0x9F, by rw [if_pos (by omega), hd], by omega, by omega⟩
    · refine ⟨0x80, 0xBF, ?_, by omega, by omega⟩
      rw [if_neg (by omega), if_pos (by omega), Nat.add_sub_cancel]

/-- The first byte of four: its bounds shut out shorter forms and values too large, and no more. -/
theorem start_four {v : Nat} (h1 : 0x10000 ≤ v) (h2 : v < 0x110000) :
    ∃ low high, start (v / 262144 + 0xF0) = ([], some ⟨3, low, high, v / 262144⟩) ∧
      low ≤ 0x80 + v / 4096 % 64 ∧ 0x80 + v / 4096 % 64 ≤ high := by
  unfold start
  rw [if_neg (by omega), if_neg (by omega), if_neg (by omega), if_neg (by omega),
    if_neg (by omega), if_neg (by omega)]
  by_cases h0 : v / 262144 = 0
  · -- Behind 0xF0 the bounds shut out what fits into three bytes, behind 0xF4 what is too large.
    exact ⟨0x90, 0xBF, by rw [if_pos (by omega), h0], by omega, by omega⟩
  · rw [if_neg (by omega)]
    by_cases h4 : v / 262144 = 4
    · exact ⟨0x80, 0x8F, by rw [if_neg (by omega), if_pos (by omega), h4], by omega, by omega⟩
    · refine ⟨0x80, 0xBF, ?_, by omega, by omega⟩
      rw [if_pos (by omega), Nat.add_sub_cancel]

/-! ## One character -/

theorem run_one {v : Nat} (h : v ≤ 0x7F) (rest : List UInt8) :
    run none (UInt8.ofNat v :: rest) = Char.ofNat v :: run none rest := by
  rw [run_cons, toNat_ofNat_of_lt (by omega)]
  simp only [step, start, if_pos (show v < 0x80 by omega), List.singleton_append]

theorem run_two {v : Nat} (h1 : 0x7F < v) (h2 : v ≤ 0x7FF) (rest : List UInt8) :
    run none (UInt8.ofNat (v / 64 % 32 + 0xC0) :: UInt8.ofNat (v % 64 + 0x80) :: rest)
      = Char.ofNat v :: run none rest := by
  rw [run_cons, toNat_ofNat_of_lt (by omega), Nat.mod_eq_of_lt (show v / 64 < 32 by omega)]
  simp only [step, start_two (show 2 ≤ v / 64 by omega) (by omega), List.nil_append]
  rw [run_tail (by omega) (by omega) (by omega), if_pos (by decide), Nat.div_add_mod' v 64]

theorem run_three {v : Nat} (h1 : 0x7FF < v) (h2 : v ≤ 0xFFFF) (hs : v < 0xD800 ∨ 0xDFFF < v)
    (rest : List UInt8) :
    run none (UInt8.ofNat (v / 4096 % 16 + 0xE0) :: UInt8.ofNat (v / 64 % 64 + 0x80)
        :: UInt8.ofNat (v % 64 + 0x80) :: rest)
      = Char.ofNat v :: run none rest := by
  obtain ⟨low, high, hstart, hlow, hhigh⟩ := start_three (v := v) (by omega) (by omega) hs
  have hv : (v / 4096 * 64 + v / 64 % 64) * 64 + v % 64 = v := by omega
  rw [run_cons, toNat_ofNat_of_lt (by omega), Nat.mod_eq_of_lt (show v / 4096 < 16 by omega)]
  simp only [step, hstart, List.nil_append]
  rw [run_tail (by omega) hlow hhigh, if_neg (by decide),
    run_tail (by omega) (by omega) (by omega), if_pos (by decide), hv]

theorem run_four {v : Nat} (h1 : 0xFFFF < v) (h2 : v < 0x110000) (rest : List UInt8) :
    run none (UInt8.ofNat (v / 262144 % 8 + 0xF0) :: UInt8.ofNat (v / 4096 % 64 + 0x80)
        :: UInt8.ofNat (v / 64 % 64 + 0x80) :: UInt8.ofNat (v % 64 + 0x80) :: rest)
      = Char.ofNat v :: run none rest := by
  obtain ⟨low, high, hstart, hlow, hhigh⟩ := start_four (v := v) (by omega) h2
  have hv : ((v / 262144 * 64 + v / 4096 % 64) * 64 + v / 64 % 64) * 64 + v % 64 = v := by omega
  rw [run_cons, toNat_ofNat_of_lt (by omega), Nat.mod_eq_of_lt (show v / 262144 < 8 by omega)]
  simp only [step, hstart, List.nil_append]
  rw [run_tail (by omega) hlow hhigh, if_neg (by decide),
    run_tail (by omega) (by omega) (by omega), if_neg (by decide),
    run_tail (by omega) (by omega) (by omega), if_pos (by decide), hv]

/-- **The bytes of a character are read as that character**, whatever follows. -/
theorem run_encodeChar (c : Char) (rest : List UInt8) :
    run none (String.utf8EncodeChar c ++ rest) = c :: run none rest := by
  have hc : Char.ofNat c.val.toNat = c := Char.ofNat_toNat c
  have hv : c.val.toNat < 0xD800 ∨ 0xDFFF < c.val.toNat ∧ c.val.toNat < 0x110000 := c.valid
  fun_cases String.utf8EncodeChar c with
  | case1 v h1 => rw [List.singleton_append, run_one h1, hc]
  | case2 v h1 h2 => rw [List.cons_append, List.singleton_append, run_two (by omega) h2, hc]
  | case3 v h1 h2 h3 =>
    rw [List.cons_append, List.cons_append, List.singleton_append,
      run_three (by omega) h3 (by omega), hc]
  | case4 v h1 h2 h3 =>
    rw [List.cons_append, List.cons_append, List.cons_append, List.singleton_append,
      run_four (by omega) (by omega), hc]

/-! ## Whole texts -/

/-- The UTF-8 bytes of characters. -/
def bytesOf (cs : List Char) : List UInt8 := cs.flatMap String.utf8EncodeChar

@[simp] theorem bytesOf_nil : bytesOf [] = [] := rfl

@[simp] theorem bytesOf_cons (c : Char) (cs : List Char) :
    bytesOf (c :: cs) = String.utf8EncodeChar c ++ bytesOf cs := rfl

@[simp] theorem bytesOf_append (a b : List Char) : bytesOf (a ++ b) = bytesOf a ++ bytesOf b :=
  List.flatMap_append

theorem encode_ofList (cs : List Char) : encode (String.ofList cs) = bytesOf cs := by
  rw [encode, String.toList_ofList, bytesOf]

theorem run_bytesOf : ∀ cs : List Char, run none (bytesOf cs) = cs
  | [] => rfl
  | c :: rest => by rw [bytesOf_cons, run_encodeChar, run_bytesOf rest]

/-- **Text that was written is read as it was.** -/
theorem decode_encode (s : String) : decode (encode s) = s := by
  show String.ofList (run none (bytesOf s.toList)) = s
  rw [run_bytesOf, String.ofList_toList]

/-! ## ASCII -/

theorem encodeChar_ascii {c : Char} (h : c.toNat < 0x80) :
    String.utf8EncodeChar c = [UInt8.ofNat c.toNat] := by
  have hle : c.val.toNat ≤ 0x7F := Nat.le_of_lt_succ h
  unfold String.utf8EncodeChar
  rw [if_pos hle]
  rfl

/-- ASCII bytes are those of the characters that they stand for. -/
theorem bytesOf_map_ofNat {bytes : List UInt8} (h : ∀ b ∈ bytes, b.toNat < 0x80) :
    bytesOf (bytes.map fun b => Char.ofNat b.toNat) = bytes := by
  induction bytes with
  | nil => rfl
  | cons b rest ih =>
    obtain ⟨hb, hrest⟩ := List.forall_mem_cons.1 h
    have hvalid : b.toNat.isValidChar := .inl (by omega)
    have hc : (Char.ofNat b.toNat).toNat = b.toNat := congrArg Char.toNat (dif_pos hvalid)
    rw [List.map_cons, bytesOf_cons, encodeChar_ascii (by omega), hc, ih hrest, UInt8.ofNat_toNat]
    rfl

/-- A byte of a character is the character itself or lies above ASCII. -/
theorem toNat_of_mem_encodeChar {c : Char} {b : UInt8} (h : b ∈ String.utf8EncodeChar c) :
    b.toNat = c.toNat ∨ 0x80 ≤ b.toNat := by
  revert h
  fun_cases String.utf8EncodeChar c with
  | case1 v h1 =>
    intro h
    rw [List.mem_singleton.1 h]
    exact .inl (toNat_ofNat_of_lt (by omega))
  | case2 v h1 h2 =>
    intro h
    simp only [List.mem_cons, List.not_mem_nil, or_false] at h
    rcases h with rfl | rfl <;> (rw [toNat_ofNat_of_lt (by omega)]; omega)
  | case3 v h1 h2 h3 =>
    intro h
    simp only [List.mem_cons, List.not_mem_nil, or_false] at h
    rcases h with rfl | rfl | rfl <;> (rw [toNat_ofNat_of_lt (by omega)]; omega)
  | case4 v h1 h2 h3 =>
    intro h
    simp only [List.mem_cons, List.not_mem_nil, or_false] at h
    rcases h with rfl | rfl | rfl | rfl <;> (rw [toNat_ofNat_of_lt (by omega)]; omega)

/-- The byte of an ASCII character stands for nothing else. -/
theorem mem_bytesOf_iff {a : Char} (ha : a.toNat < 0x80) {cs : List Char} :
    UInt8.ofNat a.toNat ∈ bytesOf cs ↔ a ∈ cs := by
  constructor
  · intro h
    obtain ⟨c, hc, hb⟩ := List.mem_flatMap.1 h
    have hn := toNat_of_mem_encodeChar hb
    rw [toNat_ofNat_of_lt (by omega)] at hn
    have hac : a.toNat = c.toNat := hn.resolve_right (by omega)
    rw [← Char.ofNat_toNat a, hac, Char.ofNat_toNat c]
    exact hc
  · intro h
    exact List.mem_flatMap.2 ⟨a, h, by rw [encodeChar_ascii ha]; exact List.mem_singleton_self _⟩

end UrlQuery.Utf8
