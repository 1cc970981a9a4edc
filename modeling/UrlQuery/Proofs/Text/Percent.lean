import UrlQuery.Proofs.Text.Utf8
import UrlQuery.Text.Percent

/-!
# Percent escapes

The escape of a byte is `%` and two upper-case hexadecimal digits (`mem_escapeByte`), and is read as
that byte, whatever follows (`decode_escapeByte`). A writer that keeps those characters writes none
that it does not keep (`kept_of_mem_encode`), so it leaves what it wrote as it is
(`encode_of_kept`).
-/

namespace UrlQuery.Percent

/-! ## Digits -/

/-- The character is an upper-case hexadecimal digit. -/
def isUpperHex (c : Char) : Bool :=
  ('0' ≤ c && c ≤ '9') || ('A' ≤ c && c ≤ 'F')

/-- The byte of a hexadecimal digit. -/
def hexByte (n : Nat) : UInt8 := UInt8.ofNat (hexDigit n).toNat

theorem isUpperHex_hexDigit {n : Nat} (h : n < 16) : isUpperHex (hexDigit n) = true := by
  have hall : ∀ m ∈ List.range 16, isUpperHex (hexDigit m) = true := by decide
  exact hall n (List.mem_range.2 h)

theorem encodeChar_hexDigit {n : Nat} (h : n < 16) :
    String.utf8EncodeChar (hexDigit n) = [hexByte n] := by
  have hall : ∀ m ∈ List.range 16, String.utf8EncodeChar (hexDigit m) = [hexByte m] := by decide
  exact hall n (List.mem_range.2 h)

theorem hexValue_hexByte {n : Nat} (h : n < 16) : hexValue (hexByte n) = some n := by
  have hall : ∀ m ∈ List.range 16, hexValue (hexByte m) = some m := by decide
  exact hall n (List.mem_range.2 h)

theorem hexDigit_inj {m n : Nat} (hm : m < 16) (hn : n < 16) (h : hexDigit m = hexDigit n) :
    m = n := by
  have hvalue : hexValue (hexByte m) = hexValue (hexByte n) := by rw [hexByte, h]; rfl
  rw [hexValue_hexByte hm, hexValue_hexByte hn] at hvalue
  exact Option.some.inj hvalue

/-! ## Escapes -/

theorem mem_escapeByte {b : UInt8} {c : Char} (h : c ∈ escapeByte b) :
    c = '%' ∨ isUpperHex c = true := by
  have hb : b.toNat < 256 := b.toNat_lt
  simp only [escapeByte, List.mem_cons, List.not_mem_nil, or_false] at h
  rcases h with rfl | rfl | rfl
  · exact .inl rfl
  · exact .inr (isUpperHex_hexDigit (by omega))
  · exact .inr (isUpperHex_hexDigit (by omega))

theorem bytesOf_escapeByte (b : UInt8) :
    Utf8.bytesOf (escapeByte b) = [0x25, hexByte (b.toNat / 16), hexByte (b.toNat % 16)] := by
  have hb : b.toNat < 256 := b.toNat_lt
  have hpercent : String.utf8EncodeChar '%' = [0x25] := rfl
  simp only [escapeByte, Utf8.bytesOf_cons, Utf8.bytesOf_nil, List.append_nil, hpercent,
    encodeChar_hexDigit (show b.toNat / 16 < 16 by omega),
    encodeChar_hexDigit (show b.toNat % 16 < 16 by omega), List.singleton_append]

theorem decode_cons_of_ne {b : UInt8} (h : b ≠ 0x25) :
    ∀ rest : List UInt8, decode (b :: rest) = b :: decode rest
  | [] => rfl
  | [_] => rfl
  | _ :: _ :: _ => by rw [decode, if_neg h]

/-- **An escape is read as its byte**, whatever follows. -/
theorem decode_escapeByte (b : UInt8) (rest : List UInt8) :
    decode (0x25 :: hexByte (b.toNat / 16) :: hexByte (b.toNat % 16) :: rest)
      = b :: decode rest := by
  have hb : b.toNat < 256 := b.toNat_lt
  rw [decode, if_pos rfl, hexValue_hexByte (by omega), hexValue_hexByte (by omega)]
  simp only
  rw [Nat.div_add_mod', UInt8.ofNat_toNat]

/-! ## What is kept -/

variable {keep : Char → Bool} {cs : List Char}

theorem encode_of_kept (h : ∀ c ∈ cs, keep c = true) : encode keep cs = cs := by
  induction cs with
  | nil => rfl
  | cons c cs ih =>
    obtain ⟨hc, hcs⟩ := List.forall_mem_cons.1 h
    rw [encode, List.flatMap_cons, if_pos hc, ← encode, ih hcs, List.singleton_append]

/-- **A writer that keeps its escapes writes no other characters than it keeps.** -/
theorem kept_of_mem_encode (hpercent : keep '%' = true)
    (hhex : ∀ c, isUpperHex c = true → keep c = true) {c : Char} (h : c ∈ encode keep cs) :
    keep c = true := by
  obtain ⟨a, -, hc⟩ := List.mem_flatMap.1 h
  split at hc
  · next ha =>
    rw [List.mem_singleton.1 hc]
    exact ha
  · obtain ⟨b, -, hb⟩ := List.mem_flatMap.1 hc
    rcases mem_escapeByte hb with rfl | hdigit
    · exact hpercent
    · exact hhex c hdigit

end UrlQuery.Percent
