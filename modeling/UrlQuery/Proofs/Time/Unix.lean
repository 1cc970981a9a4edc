import Std.Data.String.ToInt
import UrlQuery.Time.Render

/-!
# Counts since the epoch

A time is written as its seconds, milliseconds or nanoseconds since the epoch, whatever clock shows
it. The seconds are rounded down, the milliseconds toward the epoch: from the epoch on that is the
same, before it the two part wherever a time is not on a whole millisecond (`render_sinceEpoch`).
-/

namespace UrlQuery.Timestamp

variable {t : Timestamp}

/-- The seconds are the nanoseconds rounded down. -/
theorem secs_eq_fdiv (h : t.nanos < 1000000000) : t.secs = t.nanoseconds.fdiv 1000000000 := by
  rw [Int.fdiv_eq_ediv_of_nonneg _ (by decide), nanoseconds]
  omega

/-- The milliseconds are the nanoseconds rounded down from the epoch on, and rounded up before. -/
theorem milliseconds_eq (t : Timestamp) :
    t.milliseconds = t.nanoseconds.fdiv 1000000 +
      if 0 ≤ t.nanoseconds ∨ 1000000 ∣ t.nanoseconds then 0 else 1 := by
  rw [milliseconds, Int.tdiv_eq_ediv, Int.fdiv_eq_ediv_of_nonneg _ (by decide)]
  rfl

theorem milliseconds_eq_fdiv_iff :
    t.milliseconds = t.nanoseconds.fdiv 1000000 ↔
      0 ≤ t.nanoseconds ∨ 1000000 ∣ t.nanoseconds := by
  rw [milliseconds_eq]
  split
  · next h => exact iff_of_true (Int.add_zero _) h
  · next h => exact iff_of_false (by omega) h

/-- The milliseconds lie within the second that is written, but for a time in the last millisecond
of a second before the epoch. -/
theorem milliseconds_fdiv_iff (h : t.nanos < 1000000000) :
    t.milliseconds.fdiv 1000 = t.secs ↔ 0 ≤ t.nanoseconds ∨ t.nanos ≤ 999000000 := by
  rw [milliseconds_eq, Int.fdiv_eq_ediv_of_nonneg _ (by decide),
    Int.fdiv_eq_ediv_of_nonneg _ (by decide), nanoseconds]
  split <;> omega

/-- A count since the epoch is the same on every clock. -/
theorem render_offset {format : TimeFormat} (h : format ∈ [.unix, .unixMilli, .unixNano])
    (t : Timestamp) (offset : Int) : { t with offset }.render format = t.render format := by
  simp only [List.mem_cons, List.not_mem_nil, or_false] at h
  rcases h with rfl | rfl | rfl <;> rfl

/-- **What the counts since the epoch say about a time.** The nanoseconds are exact and the seconds
are rounded down. The milliseconds are rounded down from the epoch on and up before it, so they are
the nanoseconds rounded down just if the time is not before the epoch or on a whole millisecond,
and in the second that is written just if it is not before the epoch or not past the last whole
millisecond of its second. -/
theorem render_sinceEpoch (hzero : t.isZero = false) (hnanos : t.nanos < 1000000000) :
    let n := t.nanoseconds
    let milli := n.fdiv 1000000 + if 0 ≤ n ∨ 1000000 ∣ n then 0 else 1
    (t.render .unixNano = toString n ∧ t.render .unix = toString (n.fdiv 1000000000) ∧
      t.render .unixMilli = toString milli) ∧
    (t.render .unixMilli = toString (n.fdiv 1000000) ↔ 0 ≤ n ∨ 1000000 ∣ n) ∧
    (milli.fdiv 1000 = n.fdiv 1000000000 ↔ 0 ≤ n ∨ t.nanos ≤ 999000000) ∧
    ∀ format ∈ [TimeFormat.unix, .unixMilli, .unixNano], ∀ offset,
      { t with offset }.render format = t.render format := by
  intro n milli
  have hmilli : t.milliseconds = milli := t.milliseconds_eq
  have hsecs : t.secs = n.fdiv 1000000000 := secs_eq_fdiv hnanos
  have hnotZero : ¬ t.isZero = true := Bool.eq_false_iff.1 hzero
  have hunixMilli : t.render .unixMilli = toString t.milliseconds := by rw [render, if_neg hnotZero]
  refine ⟨⟨?_, ?_, ?_⟩, ?_, ?_, fun _ h offset => render_offset h t offset⟩
  · rw [render, if_neg hnotZero]
  · rw [render, if_neg hnotZero, hsecs]
  · rw [hunixMilli, hmilli]
  · rw [hunixMilli, Int.toString_eq_repr, Int.toString_eq_repr, Int.repr_inj]
    exact milliseconds_eq_fdiv_iff
  · rw [← hmilli, ← hsecs]
    exact milliseconds_fdiv_iff hnanos

/-- A nanosecond more than a second before the epoch, the milliseconds are already those of the
next second. -/
theorem render_sinceEpoch_before :
    let t : Timestamp := { secs := -2, nanos := 999999999, offset := 3600 }
    t.isZero = false ∧ t.nanos < 1000000000 ∧
    (t.render .unixNano = "-1000000001" ∧ t.render .unix = "-2" ∧
      t.render .unixMilli = "-1000") ∧
    t.render .unixMilli ≠ toString (t.nanoseconds.fdiv 1000000) ∧
    { t with offset := 0 }.render .unixMilli = t.render .unixMilli := by
  intro t
  have hzero : t.isZero = false := by decide
  have hnanos : t.nanos < 1000000000 := by decide
  obtain ⟨⟨hnano, hunix, hmilli⟩, hfloor, -, hoffset⟩ := render_sinceEpoch hzero hnanos
  refine ⟨hzero, hnanos, ⟨hnano, hunix, hmilli⟩, mt hfloor.1 (by decide), ?_⟩
  exact hoffset .unixMilli (by simp) 0

/-- Half a millisecond before the epoch is written as no milliseconds, though it is in the
millisecond, as it is in the second, that ends there. -/
theorem render_unixMilli_before :
    ¬ ∀ t : Timestamp, t.isZero = false → t.nanos < 1000000000 →
      t.render .unixMilli = toString (t.nanoseconds.fdiv 1000000) := by
  intro h
  have hclaimed := h { secs := -1, nanos := 999500000 } (by decide) (by decide)
  revert hclaimed
  decide

end UrlQuery.Timestamp
