import ThresholdCheck.Plugin.Basic
import ThresholdCheck.Proofs.Evaluator.Consistency

/-!
# What a start puts in force

A start opens an evaluator from nothing, one enabled severity after the other.

* `mem_enabled_iff`: the severities that are gone through are the enabled ones;
* `collectRanges_readable`: the ranges that were given for a severity are readable, in the mode of
  the plugin;
* **`openEvaluator_threshold`**: each severity has the ranges that were given for it if it is gone
  through, and is left alone otherwise;
* **`opened_consistent`**: so the evaluator that is opened is consistent.
-/

namespace ThresholdCheck.Plugin

open CommandLine (Given)

/-! ## 1. The enabled severities -/

theorem mem_enabled_iff {p : Plugin} {severity : Severity} {required : Bool} :
    (severity, required) ∈ p.enabled ↔ p.enabled? severity = some required := by
  unfold enabled
  rw [List.mem_filterMap]
  constructor
  · intro h
    obtain ⟨s, -, hs⟩ := h
    obtain ⟨r, hr, heq⟩ := Option.map_eq_some_iff.1 hs
    cases heq
    exact hr
  · intro h
    have hall : severity ∈ Severity.all := by cases severity <;> decide
    exact ⟨severity, hall, by rw [h, Option.map_some]⟩

/-! ## 2. The ranges of a severity -/

theorem collectRanges_readable {mode : Mode} {texts : List String} {s : ThresholdSet}
    (h : collectRanges mode texts = .ok s) : s.Readable mode :=
  foldlM_induction (ThresholdSet.readable_empty mode) (fun _ _ _ _ hs happend => hs.append happend)
    h

/-! ## 3. One severity after the other -/

variable {mode : Mode} {given : Given} {severities : List (Severity × Bool)} {e e' : Evaluator}

theorem openEvaluator_records (h : openEvaluator mode given severities e = .ok e') :
    e'.records = e.records := by
  induction severities generalizing e with
  | nil =>
    cases h
    rfl
  | cons first rest ih =>
    obtain ⟨ranges, -, h⟩ := bind_eq_ok h
    rw [ih h]
    exact Evaluator.records_withThreshold e _ _

/-- **Each severity has the ranges that were given for it if it is gone through, and is left alone
    otherwise.** -/
theorem openEvaluator_threshold (h : openEvaluator mode given severities e = .ok e')
    (severity : Severity) :
    (∃ required ranges, (severity, required) ∈ severities ∧
      collectRanges mode (given.valuesOf severity.name) = .ok ranges ∧
      e'.threshold severity = some ⟨ranges, required⟩) ∨
    severity ∉ severities.map Prod.fst ∧ e'.threshold severity = e.threshold severity := by
  induction severities generalizing e with
  | nil =>
    cases h
    exact .inr ⟨List.not_mem_nil, rfl⟩
  | cons first rest ih =>
    obtain ⟨ranges, hranges, h⟩ := bind_eq_ok h
    rcases ih h with ⟨required, later, hmem, hlater, hthreshold⟩ | ⟨hrest, hthreshold⟩
    · exact .inl ⟨required, later, List.mem_cons_of_mem _ hmem, hlater, hthreshold⟩
    · -- nothing later touches the severity, so the first entry decides
      rw [Evaluator.enable, Evaluator.threshold_withThreshold] at hthreshold
      by_cases hfirst : severity = first.1
      · rw [if_pos hfirst] at hthreshold
        subst hfirst
        exact .inl ⟨first.2, ranges, List.mem_cons_self, hranges, hthreshold⟩
      · rw [if_neg hfirst] at hthreshold
        refine .inr ⟨?_, hthreshold⟩
        rw [List.map_cons, List.mem_cons, not_or]
        exact ⟨hfirst, hrest⟩

/-- **An evaluator that is opened from nothing is consistent.** -/
theorem opened_consistent (h : openEvaluator mode given severities Evaluator.empty = .ok e) :
    e.Consistent := by
  have hrecords : e.records = [] := openEvaluator_records h
  refine ⟨fun severity t ht => ?_, ?_, ?_⟩
  · rcases openEvaluator_threshold h severity with ⟨required, ranges, -, hranges, heq⟩ | ⟨-, heq⟩
    · rw [heq] at ht
      cases ht
      exact Threshold.readable_of (collectRanges_readable hranges) required
    · rw [heq] at ht
      exact Evaluator.consistent_empty.readable severity t ht
  · rw [hrecords]
    exact List.nodup_nil
  · intro r hr
    rw [hrecords] at hr
    cases hr

end ThresholdCheck.Plugin
