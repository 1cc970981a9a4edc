import UrlQuery.Proofs.Text.Utf8

/-!
# The order of texts

Texts are ordered by their characters, and that is the order of their UTF-8 bytes
(`lt_iff_encode_lt`): of two characters the lesser has the lesser bytes, whatever follows them
(`utf8EncodeChar_lt`).
-/

namespace UrlQuery.Utf8

theorem ofNat_cons_lt_iff {m n : Nat} (hm : m < 256) (hn : n < 256) {r t : List UInt8} :
    UInt8.ofNat m :: r < UInt8.ofNat n :: t ↔ m < n ∨ (m = n ∧ r < t) := by
  rw [List.cons_lt_cons_iff, UInt8.lt_iff_toNat_lt, ← UInt8.toNat_inj, toNat_ofNat_of_lt hm,
    toNat_ofNat_of_lt hn]

/-- The lesser number has the lesser digit to the base 64 where the two differ first. -/
theorem digits_lt {v w : Nat} (h : v < w) :
    v / 262144 < w / 262144 ∨ (v / 262144 = w / 262144 ∧
      (v / 4096 % 64 < w / 4096 % 64 ∨ (v / 4096 % 64 = w / 4096 % 64 ∧
        (v / 64 % 64 < w / 64 % 64 ∨ (v / 64 % 64 = w / 64 % 64 ∧ v % 64 < w % 64))))) := by
  have hstep : ∀ m n : Nat, m < n → m / 64 < n / 64 ∨ (m / 64 = n / 64 ∧ m % 64 < n % 64) := by
    omega
  have hsquare : ∀ n : Nat, n / 64 / 64 = n / 4096 := fun n => Nat.div_div_eq_div_mul n 64 64
  have hcube : ∀ n : Nat, n / 4096 / 64 = n / 262144 := fun n => Nat.div_div_eq_div_mul n 4096 64
  rcases hstep v w h with h | ⟨h0, h⟩
  · rcases hstep _ _ h with h | ⟨h1, h⟩
    · rw [hsquare, hsquare] at h
      rcases hstep _ _ h with h | ⟨h2, h⟩
      · rw [hcube, hcube] at h
        exact .inl h
      · rw [hcube, hcube] at h2
        exact .inr ⟨h2, .inl h⟩
    · rw [hsquare, hsquare] at h1
      rw [← hcube, ← hcube w, h1]
      exact .inr ⟨rfl, .inr ⟨rfl, .inl h⟩⟩
  · rw [← hcube, ← hcube w, ← hsquare, ← hsquare w, h0]
    exact .inr ⟨rfl, .inr ⟨rfl, .inr ⟨rfl, h⟩⟩⟩

/-- **The lesser character has the lesser bytes.** Where the lengths differ the first bytes decide,
else the bytes are digits of the two code points, the highest in front. -/
theorem utf8EncodeChar_lt {c d : Char} (h : c < d) (r t : List UInt8) :
    String.utf8EncodeChar c ++ r < String.utf8EncodeChar d ++ t := by
  have hlt : c.val.toNat < d.val.toNat := UInt32.lt_iff_toNat_lt.1 (Char.lt_def.1 h)
  have hmax : d.val.toNat < 0x110000 := by
    have hvalid := d.valid
    unfold UInt32.isValidChar Nat.isValidChar at hvalid
    omega
  have hdigits := digits_lt hlt
  unfold String.utf8EncodeChar
  generalize c.val.toNat = v at *
  generalize d.val.toNat = w at *
  -- the first digits fit beside the marks of their byte
  have hv : v / 262144 < 8 ∧ w / 262144 < 8 := by omega
  simp only [Nat.mod_eq_of_lt hv.1, Nat.mod_eq_of_lt hv.2]
  (repeat' split) <;>
    simp (disch := omega) only [List.cons_append, List.nil_append, ofNat_cons_lt_iff] <;> omega

theorem flatMap_lt_of_lt : ∀ {cs ds : List Char}, cs < ds →
    cs.flatMap String.utf8EncodeChar < ds.flatMap String.utf8EncodeChar
  | [], d :: ds, _ => by
    rw [List.flatMap_nil, List.flatMap_cons]
    fun_cases String.utf8EncodeChar d <;> exact List.nil_lt_cons _ _
  | c :: cs, d :: ds, h => by
    rw [List.flatMap_cons, List.flatMap_cons]
    rcases List.cons_lt_cons_iff.1 h with hcd | ⟨rfl, hrest⟩
    · exact utf8EncodeChar_lt hcd _ _
    · exact List.append_left_lt (flatMap_lt_of_lt hrest)

/-- **Texts are in the order of their UTF-8 bytes.** -/
theorem lt_iff_encode_lt {s t : String} : s < t ↔ encode s < encode t := by
  refine ⟨fun h => flatMap_lt_of_lt (String.lt_iff.1 h), fun h => ?_⟩
  by_cases hst : s = t
  · rw [hst] at h
    exact absurd h (List.lt_irrefl _)
  · by_cases hlt : s < t
    · exact hlt
    · have hgt : t < s := Std.lt_of_le_of_ne (String.not_lt.1 hlt) (Ne.symm hst)
      exact absurd (List.lt_trans h (flatMap_lt_of_lt (String.lt_iff.1 hgt))) (List.lt_irrefl _)

end UrlQuery.Utf8
