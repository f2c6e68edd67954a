import ThresholdCheck.Proofs.Evaluator.Call
import ThresholdCheck.Proofs.Evaluator.Judging
import ThresholdCheck.Proofs.Evaluator.Records

/-!
# An evaluator is a table of records in which the last writer wins

The writes of a run are its successful measurements, each with the evaluator that it met
(`measured`). The invariant is that the records reflect the writes so far (`Reflects`); a call that
writes no record keeps them.

* `attempt_reflects`: one call is reflected by the write that it makes, if it makes one;
* `after_reflects`: the invariant over a run;
* **`after_last_writer`**: the records after any run, and no trace of a call that failed.
-/

namespace ThresholdCheck.Evaluator

/-! ## 1. The writes of a run -/

/-- The evaluator with no records: what a measurement is judged by. -/
def thresholdsOnly (e : Evaluator) : Evaluator := { e with records := [] }

/-- Whether a measurement has the record under the thresholds that it met. -/
def Judges (write : Evaluator × Measurement) (r : Record) : Prop :=
  write.1.thresholdsOnly.judge write.2 = .ok r

/-- The measurement of a call that succeeds, with the evaluator that it meets. -/
def measuredBy (e : Evaluator) (call : Call) : List (Evaluator × Measurement) :=
  match call, (attempt call.perform e).1 with
  | .setValue m, .ok _ => [(e, m)]
  | _, _ => []

/-- The measurements that succeed in a run, each with the evaluator that it meets. -/
def measured : Evaluator → List Call → List (Evaluator × Measurement)
  | _, [] => []
  | e, call :: calls => measuredBy e call ++ measured (attempt call.perform e).2 calls

/-- The evaluator after a run of calls, each made whatever became of those before. -/
def after (e : Evaluator) (calls : List Call) : Evaluator :=
  afterAll (calls.map Call.perform) e

@[simp] theorem after_nil (e : Evaluator) : e.after [] = e := rfl

@[simp] theorem after_cons (e : Evaluator) (call : Call) (calls : List Call) :
    e.after (call :: calls) = ((attempt call.perform e).2).after calls := rfl

/-! ## 2. One call -/

@[simp] theorem records_withThreshold (e : Evaluator) (t : Threshold) (severity : Severity) :
    (e.withThreshold t severity).records = e.records := by
  cases severity <;> rfl

@[simp] theorem records_setRequired (e : Evaluator) (severity : Severity) (required : Bool) :
    (e.setRequired severity required).records = e.records := by
  unfold setRequired
  cases e.threshold severity with
  | none => rfl
  | some t => exact records_withThreshold e _ severity

theorem records_changeRanges {e next : Evaluator} {severity : Severity}
    {change : ThresholdSet → Except Fault ThresholdSet}
    (h : e.changeRanges severity change = .ok next) : next.records = e.records := by
  unfold changeRanges at h
  cases ht : e.threshold severity with
  | none =>
    rw [ht] at h
    cases h
    rfl
  | some t =>
    rw [ht] at h
    obtain ⟨ranges, -, rfl⟩ := map_eq_ok h
    exact records_withThreshold e _ severity

/-- **One call is reflected by the write that it makes, if it makes one.** -/
theorem attempt_reflects {writes : List (Evaluator × Measurement)} {e : Evaluator}
    (h : Reflects (fun w => w.2.name) Judges writes e.records) (call : Call) :
    Reflects (fun w => w.2.name) Judges (writes ++ measuredBy e call)
      (attempt call.perform e).2.records := by
  have hcall := attempt_call call e
  unfold measuredBy
  rw [hcall]
  cases call with
  | enable severity ranges required =>
    rw [List.append_nil]
    show Reflects _ _ _ (e.enable severity ranges required).records
    rw [enable, records_withThreshold]
    exact h
  | edit severity change =>
    rw [List.append_nil]
    unfold Call.apply
    dsimp only
    cases hchange : e.changeRanges severity change.apply with
    | error fault => exact h
    | ok next =>
      show Reflects _ _ _ next.records
      rw [records_changeRanges hchange]
      exact h
  | setRequired severity required =>
    rw [List.append_nil]
    show Reflects _ _ _ (e.setRequired severity required).records
    rw [records_setRequired]
    exact h
  | setValue m =>
    unfold Call.apply setValue
    dsimp only
    cases hjudge : e.judge m with
    | error fault =>
      show Reflects _ _ (writes ++ []) e.records
      rw [List.append_nil]
      exact h
    | ok r => exact h.store (w := (e, m)) (judge_name hjudge) hjudge

/-! ## 3. Runs -/

theorem after_reflects {writes : List (Evaluator × Measurement)} {e : Evaluator}
    (h : Reflects (fun w => w.2.name) Judges writes e.records) (calls : List Call) :
    Reflects (fun w => w.2.name) Judges (writes ++ measured e calls) (e.after calls).records := by
  -- the writes so far grow at their end, so they are generalized with the evaluator
  induction calls generalizing e writes with
  | nil =>
    rw [measured, List.append_nil]
    exact h
  | cons call calls ih =>
    rw [measured, ← List.append_assoc, after_cons]
    exact ih (attempt_reflects h call)

/-- **After any run, the records are those of the names that were measured, in the order in which
    they were first measured, and each is the record that the last measurement of its name has under
    the thresholds of that moment.** A call that ends in a fault leaves the evaluator as it was. -/
theorem after_last_writer (calls : List Call) :
    Reflects (fun w => w.2.name) Judges (measured empty calls) (empty.after calls).records ∧
    ∀ (e : Evaluator) (call : Call) (fault : Fault),
      (attempt call.perform e).1 = .error fault → (attempt call.perform e).2 = e := by
  constructor
  · exact after_reflects (e := empty) (reflects_nil _ _) calls
  · intro e call fault h
    have hcommit := attempt_call call e
    exact commit_error (hcommit.symm.trans (Prod.ext h rfl))

/-- A name that is measured twice, under other thresholds the second time, and two measurements that
    fail for want of a range for critical, the second one after its range for warning was violated. -/
theorem after_last_writer_replaced :
    let ranges : ThresholdSet := (ThresholdSet.empty .zeroFloor).edited [.append "10"]
    let high : Measurement := .plain "load" .infinity
    let calls : List Call :=
      [.setValue (.plain "load" .zero), .setValue (.plain "disk" .infinity),
        .enable .warning ranges false, .setValue high, .enable .critical (.empty .zeroFloor) true,
        .setValue (.plain "disk" .zero)]
    let e := empty.after calls
    (measured empty calls).map (fun w => w.2.name) = ["load", "disk", "load"] ∧
    Reflects (fun w => w.2.name) Judges (measured empty calls) e.records ∧
    e.records.map (fun r => (r.name, r.value, r.state)) =
      [("load", .infinity, .warning), ("disk", .infinity, .ok)] ∧
    Threshold.matched .warning 1 .infinity e.warning = .ok (some "10") ∧
    (attempt (Call.setValue high).perform e).1 = .error (.missingThreshold .critical 1) ∧
    (attempt (Call.setValue high).perform e).2 = e := by
  intro ranges high calls e
  obtain ⟨hreflects, hfails⟩ := after_last_writer calls
  have hwrites : (measured empty calls).map (fun w => w.2.name) = ["load", "disk", "load"] := by
    decide +kernel
  have hrecords : e.records.map (fun r => (r.name, r.value, r.state)) =
      [("load", .infinity, .warning), ("disk", .infinity, .ok)] := by decide +kernel
  have hwarned : Threshold.matched .warning 1 .infinity e.warning = .ok (some "10") :=
    eq_ok_of_toOption (by decide +kernel)
  have hcritical : e.critical = some ⟨.empty .zeroFloor, true⟩ := by decide +kernel
  have hmissing : Threshold.matched .critical 1 .infinity e.critical =
      .error (.missingThreshold .critical 1) := by
    rw [hcritical]
    rfl
  have hjudge : e.judge high = .error (.missingThreshold .critical 1) :=
    judge_of_matched_error Nat.one_ne_zero rfl rfl hwarned hmissing
  have hfault : (attempt (Call.setValue high).perform e).1 =
      .error (.missingThreshold .critical 1) := by
    rw [attempt_setValue, hjudge]
  exact ⟨hwrites, hreflects, hrecords, hwarned, hfault, hfails e (.setValue high) _ hfault⟩

end ThresholdCheck.Evaluator
