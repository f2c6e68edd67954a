import Mathlib.Data.List.Forall2
import ThresholdCheck.Proofs.Evaluator.Judging

/-!
# More ranges, and no measurement is judged milder

Ranges that are put behind those of a threshold take slots that were free. So a measurement that
violated a range violates it still, and one that had no range at its slot may violate a new one.

* `Threshold.matched_of_extends`: a range that was violated at a slot is violated there still;
* **`Evaluator.judge_of_extends`**: what was judged is judged, and no milder;
* `forall₂_store`: records that are no worse than others stay so, name by name;
* **`Report.overall_mono`**: so their worst state is no worse either.
-/

namespace ThresholdCheck

/-! ## 1. Thresholds -/

/-- There are more ranges behind those that there were. -/
def ThresholdSet.ExtendsTo (s t : ThresholdSet) : Prop := s.ranges <+: t.ranges

/-- A range keeps its slot when others are put behind it. -/
theorem ThresholdSet.get?_of_extends {s t : ThresholdSet} (h : s.ExtendsTo t) {slot : Nat}
    {r : Range} (hr : s.get? slot = some r) : t.get? slot = some r := by
  obtain ⟨more, hmore⟩ := h
  cases slot with
  | zero => cases hr
  | succ i =>
    rw [ThresholdSet.get?_succ] at hr ⊢
    obtain ⟨hi, -⟩ := List.getElem?_eq_some_iff.1 hr
    rw [← hmore, List.getElem?_append_left hi]
    exact hr

namespace Threshold

/-- There are more ranges, and they are needed as before. -/
structure ExtendsTo (t t' : Threshold) : Prop where
  required : t'.required = t.required
  ranges : t.ranges.ExtendsTo t'.ranges

/-- **A severity that was tested is tested, and a range that was violated is violated still.** -/
theorem matched_of_extends {severity : Severity} {slot : Nat} {value : Binary64}
    {t t' : Option Threshold} {found : Option String} (h : Option.Rel ExtendsTo t t')
    (hfound : matched severity slot value t = .ok found) :
    ∃ found', matched severity slot value t' = .ok found' ∧
      ∀ raw, found = some raw → found' = some raw := by
  cases h with
  | none =>
    cases hfound
    exact ⟨none, rfl, fun raw hraw => hraw⟩
  | @some t t' h =>
    unfold matched at hfound ⊢
    dsimp only at hfound ⊢
    cases hslot : t.ranges.get? slot with
    | some range =>
      rw [hslot] at hfound
      rw [ThresholdSet.get?_of_extends h.ranges hslot]
      exact ⟨found, hfound, fun raw hraw => hraw⟩
    | none =>
      -- the severity was passed over, so a range was not needed
      rw [hslot] at hfound
      dsimp only at hfound
      split at hfound
      · cases hfound
      · rename_i hneeded
        cases hfound
        cases t'.ranges.get? slot with
        | none =>
          dsimp only
          rw [if_neg (by rw [h.required]; exact hneeded)]
          exact ⟨none, rfl, fun raw hraw => hraw⟩
        | some range => exact ⟨_, rfl, fun raw hraw => nomatch hraw⟩

end Threshold

/-! ## 2. Records -/

/-- A record of the same name that is in the same state or in a worse one. -/
structure Record.NoWorseThan (r r' : Record) : Prop where
  name : r.name = r'.name
  state : r.state.exitCode ≤ r'.state.exitCode

theorem forall₂_store {r r' : Record} {rs rs' : List Record} (hr : r.NoWorseThan r')
    (h : List.Forall₂ Record.NoWorseThan rs rs') :
    List.Forall₂ Record.NoWorseThan (store r rs) (store r' rs') := by
  induction h with
  | nil => exact .cons hr .nil
  | @cons q q' rs rs' hq hrs ih =>
    unfold store
    rw [← hq.name, ← hr.name]
    by_cases hname : q.name = r.name
    · rw [if_pos hname, if_pos hname]
      exact .cons hr hrs
    · rw [if_neg hname, if_neg hname]
      exact .cons hq ih

/-- The worst state of records that are no worse is no worse. -/
theorem Report.overall_mono {rs rs' : List Record} (h : List.Forall₂ Record.NoWorseThan rs rs') :
    (overall rs).exitCode ≤ (overall rs').exitCode := by
  -- of the states that come first, any two in this order will do
  suffices hfold : ∀ start start' : Status, start.exitCode ≤ start'.exitCode →
      ((rs.map Record.state).foldl Status.worse start).exitCode ≤
        ((rs'.map Record.state).foldl Status.worse start').exitCode from
    hfold .ok .ok (Nat.le_refl _)
  induction h with
  | nil => exact fun start start' hstart => hstart
  | @cons r r' rs rs' hr hrs ih =>
    intro start start' hstart
    have hnext : (start.worse r.state).exitCode ≤ (start'.worse r'.state).exitCode := by
      have hstate := hr.state
      rw [Status.exitCode_worse, Status.exitCode_worse]
      omega
    exact ih _ _ hnext

/-! ## 3. Evaluators -/

namespace Evaluator

theorem stateOf_mono {warning critical warning' critical' : Option String}
    (hwarning : ∀ raw, warning = some raw → warning' = some raw)
    (hcritical : ∀ raw, critical = some raw → critical' = some raw) :
    (stateOf warning critical).exitCode ≤ (stateOf warning' critical').exitCode := by
  cases critical with
  | some raw =>
    rw [hcritical raw rfl]
    exact Nat.le_refl _
  | none =>
    cases warning with
    | none => exact Nat.zero_le _
    | some raw =>
      rw [hwarning raw rfl]
      cases critical' with
      | none => exact Nat.le_refl _
      | some raw' => exact Nat.le_succ 1

/-- Each threshold has more ranges, and each record is in the same state or in a worse one. -/
structure ExtendsTo (e e' : Evaluator) : Prop where
  thresholds : ∀ severity,
    Option.Rel Threshold.ExtendsTo (e.threshold severity) (e'.threshold severity)
  records : List.Forall₂ Record.NoWorseThan e.records e'.records

/-- **What is judged under some ranges is judged under more of them, and no milder.** -/
theorem judge_of_extends {e e' : Evaluator} (h : e.ExtendsTo e') {m : Measurement} {r : Record}
    (hr : e.judge m = .ok r) : ∃ r', e'.judge m = .ok r' ∧ r.NoWorseThan r' := by
  obtain ⟨hslot, hnumber, scale, warning, critical, hscale, hwarning, hcritical, rfl⟩ :=
    judge_eq_ok_iff.1 hr
  obtain ⟨warning', hwarning', hkept⟩ :=
    Threshold.matched_of_extends (h.thresholds .warning) hwarning
  obtain ⟨critical', hcritical', hkept'⟩ :=
    Threshold.matched_of_extends (h.thresholds .critical) hcritical
  refine ⟨recordOf m scale warning' critical', ?_, rfl, stateOf_mono hkept hkept'⟩
  exact judge_eq_ok_iff.2
    ⟨hslot, hnumber, scale, warning', critical', hscale, hwarning', hcritical', rfl⟩

/-- A record that is no worse than another is stored beside it. -/
theorem ExtendsTo.store {e e' : Evaluator} (h : e.ExtendsTo e') {r r' : Record}
    (hr : r.NoWorseThan r') :
    ExtendsTo { e with records := store r e.records }
      { e' with records := store r' e'.records } where
  thresholds
    | .warning => h.thresholds .warning
    | .critical => h.thresholds .critical
  records := forall₂_store hr h.records

end Evaluator

end ThresholdCheck
