import ThresholdCheck.Binary64.Basic

/-!
# Binary64: when an order is denied

* `not_le_iff`: of two numbers, one is at most the other or above it;
* **`not_lt_iff`**: but NaN is neither above nor below anything, so that what is not above a number
  is at most it, or one of the two is NaN.
-/

namespace ThresholdCheck.Binary64

theorem exists_key {x : Binary64} (h : x.isNaN = false) : ∃ k, x.key = some k := by
  cases hk : x.key with
  | none =>
    rw [key_eq_none_iff.1 hk] at h
    cases h
  | some k => exact ⟨k, rfl⟩

/-- **Of two numbers, one is at most the other or above it.** -/
theorem not_le_iff {x y : Binary64} (hx : x.isNaN = false) (hy : y.isNaN = false) :
    ¬x ≤ y ↔ y < x := by
  obtain ⟨a, ha⟩ := exists_key hx
  obtain ⟨b, hb⟩ := exists_key hy
  rw [le_iff, lt_iff]
  simp [ha, hb]

/-- **What is not above is at most, or there is a NaN.** -/
theorem not_lt_iff {x y : Binary64} : ¬y < x ↔ x ≤ y ∨ x = nan ∨ y = nan := by
  rw [le_iff, lt_iff, ← key_eq_none_iff, ← key_eq_none_iff]
  cases x.key with
  | none => simp
  | some a =>
    cases y.key with
    | none => simp
    | some b => simp

/-- NaN is at most nothing, and nothing is at most NaN. -/
theorem ne_nan_of_le {x y : Binary64} (h : x ≤ y) : x ≠ nan ∧ y ≠ nan := by
  obtain ⟨a, b, ha, hb, -⟩ := le_iff.1 h
  constructor
  · rintro rfl
    cases ha
  · rintro rfl
    cases hb

end ThresholdCheck.Binary64
