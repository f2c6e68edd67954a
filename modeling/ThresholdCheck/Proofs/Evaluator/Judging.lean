import ThresholdCheck.Evaluator
import ThresholdCheck.Proofs.Fallible

/-!
# What a measurement is judged to be

* `Threshold.matched_some`: one severity is tested by the range at the slot, if there is one;
* `stateOf_eq_critical_iff` and its like: what the state says of the violated ranges;
* **`judge_eq_ok_iff`**: when a measurement is judged, and what its record is then: each field of it
  is given by the measurement and the thresholds in force; `setValue_eq_ok_iff`: this record is
  stored.
-/

namespace ThresholdCheck

/-! ## 1. One severity -/

/-- A severity is tested by the range at the slot, which a measurement may lack. -/
theorem Threshold.matched_some {required : Bool} {mode : Mode} {ranges : List Range}
    (severity : Severity) {slot : Nat} (value : Binary64) (hslot : slot ≠ 0) :
    Threshold.matched severity slot value (some ⟨⟨mode, ranges⟩, required⟩) =
      if required = true ∧ ranges.length < slot then .error (.missingThreshold severity slot)
      else .ok ((ranges[slot - 1]?.filter fun r => r.violatedBy value).map Range.raw) := by
  obtain ⟨i, rfl⟩ : ∃ i, slot = i + 1 := ⟨slot - 1, by omega⟩
  have hget : (⟨mode, ranges⟩ : ThresholdSet).get? (i + 1) = ranges[i]? := rfl
  unfold Threshold.matched
  dsimp only
  rw [hget, Nat.add_sub_cancel]
  by_cases hi : i < ranges.length
  · have hthere : ¬(required = true ∧ ranges.length < i + 1) := fun h => by omega
    rw [if_neg hthere, List.getElem?_eq_getElem hi, Option.filter_some]
    dsimp only
    cases ranges[i].violatedBy value with
    | true => rfl
    | false => rfl
  · rw [List.getElem?_eq_none (by omega)]
    cases required with
    | true =>
      have hlacks : true = true ∧ ranges.length < i + 1 := ⟨rfl, by omega⟩
      rw [if_pos hlacks]
      rfl
    | false =>
      have hlacks : ¬(false = true ∧ ranges.length < i + 1) := fun h => Bool.false_ne_true h.1
      rw [if_neg hlacks]
      rfl

namespace Evaluator

/-! ## 2. The state -/

section

variable {warning critical : Option String}

theorem stateOf_eq_critical_iff : stateOf warning critical = .critical ↔ critical.isSome := by
  unfold stateOf
  cases critical with
  | some raw => simp
  | none => cases warning <;> simp

theorem stateOf_eq_warning_iff :
    stateOf warning critical = .warning ↔ warning.isSome ∧ critical = none := by
  unfold stateOf
  cases critical with
  | some raw => simp
  | none => cases warning <;> simp

theorem stateOf_eq_ok_iff : stateOf warning critical = .ok ↔ warning = none ∧ critical = none := by
  unfold stateOf
  cases critical with
  | some raw => simp
  | none => cases warning <;> simp

theorem stateOf_ne_unknown : stateOf warning critical ≠ .unknown := by
  unfold stateOf
  split
  · decide
  · split <;> decide

end

/-! ## 3. One measurement -/

/-- The record of a measurement, given its unit and the texts of the ranges that it violates. -/
def recordOf (m : Measurement) (scale : Option Scale) (warning critical : Option String) : Record :=
  ⟨m.name, m.value, m.min, m.max, scale, m.slot, stateOf warning critical, warning, critical⟩

/-- **When a measurement is judged, and its record.** -/
theorem judge_eq_ok_iff {e : Evaluator} {m : Measurement} {r : Record} :
    e.judge m = .ok r ↔
      m.slot ≠ 0 ∧ m.value.isNaN = false ∧
      ∃ scale warning critical, readScale m.scale = .ok scale ∧
        Threshold.matched .warning m.slot m.value e.warning = .ok warning ∧
        Threshold.matched .critical m.slot m.value e.critical = .ok critical ∧
        r = recordOf m scale warning critical := by
  unfold judge
  by_cases hslot : m.slot = 0
  · rw [if_pos hslot]
    exact ⟨fun h => absurd h (by simp), fun h => absurd hslot h.1⟩
  · rw [if_neg hslot]
    by_cases hvalue : m.value.isNaN = true
    · rw [if_pos hvalue]
      exact ⟨fun h => absurd h (by simp), fun h => absurd (hvalue.symm.trans h.2.1) (by simp)⟩
    · rw [if_neg hvalue]
      constructor
      · intro h
        obtain ⟨scale, hscale, h⟩ := bind_eq_ok h
        obtain ⟨warning, hwarning, h⟩ := bind_eq_ok h
        obtain ⟨critical, hcritical, h⟩ := bind_eq_ok h
        cases h
        have hnumber : m.value.isNaN = false := Bool.eq_false_iff.2 hvalue
        exact ⟨hslot, hnumber, scale, warning, critical, hscale, hwarning, hcritical, rfl⟩
      · rintro ⟨-, -, scale, warning, critical, hscale, hwarning, hcritical, rfl⟩
        rw [hscale, hwarning, hcritical]
        rfl

/-- A range that is missing for critical is a fault whatever was found for warning. -/
theorem judge_of_matched_error {e : Evaluator} {m : Measurement} {scale : Option Scale}
    {warning : Option String} {fault : Fault} (hslot : m.slot ≠ 0) (hvalue : m.value.isNaN = false)
    (hscale : readScale m.scale = .ok scale)
    (hwarning : Threshold.matched .warning m.slot m.value e.warning = .ok warning)
    (hcritical : Threshold.matched .critical m.slot m.value e.critical = .error fault) :
    e.judge m = .error fault := by
  unfold judge
  rw [if_neg hslot, if_neg (by rw [hvalue]; decide), hscale, hwarning, hcritical]
  rfl

/-- A record has the name of its measurement. -/
theorem judge_name {e : Evaluator} {m : Measurement} {r : Record} (h : e.judge m = .ok r) :
    r.name = m.name := by
  obtain ⟨-, -, scale, warning, critical, -, -, -, rfl⟩ := judge_eq_ok_iff.1 h
  rfl

/-- A measurement that is judged is stored, and answered with the state of its record. -/
theorem setValue_eq_ok_iff {e next : Evaluator} {m : Measurement} {state : Status} :
    e.setValue m = .ok (state, next) ↔
      ∃ r, e.judge m = .ok r ∧ state = r.state ∧
        next = { e with records := store r e.records } := by
  unfold setValue
  constructor
  · intro h
    obtain ⟨r, hjudge, hstored⟩ := map_eq_ok h
    cases hstored
    exact ⟨r, hjudge, rfl, rfl⟩
  · rintro ⟨r, hjudge, rfl, rfl⟩
    rw [hjudge]
    rfl

end Evaluator

end ThresholdCheck
