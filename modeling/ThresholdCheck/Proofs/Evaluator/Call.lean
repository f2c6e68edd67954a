import ThresholdCheck.Evaluator
import ThresholdCheck.Proofs.ThresholdSet.Edit

/-!
# Calls on an evaluator that is changed in place

A `Call` is one of the operations that change an evaluator. It is a row of steps (`Call.perform`)
and an operation on values (`Call.apply`). In place, a change of ranges works on the threshold
where it stands, and a measurement goes from severity to severity and marks its record as it goes.

* `attempt_editThreshold`: an edit where the ranges stand is a change of the evaluator;
* `tested_eq_judge`: the marked record is the one that `Evaluator.judge` makes at once;
* **`attempt_call`**: so the two forms of a call agree, those of a measurement for one
  (`attempt_setValue`).
-/

namespace ThresholdCheck

/-! ## 1. Calls -/

/-- An operation that changes an evaluator. -/
inductive Call where
  /-- enables a severity, or replaces its ranges -/
  | enable (severity : Severity) (ranges : ThresholdSet) (required : Bool)
  /-- changes the ranges of a severity, if it is enabled -/
  | edit (severity : Severity) (change : ThresholdSet.Edit)
  /-- says whether each measurement needs a range of the severity, if it is enabled -/
  | setRequired (severity : Severity) (required : Bool)
  /-- evaluates a measurement -/
  | setValue (m : Measurement)

namespace Evaluator

@[simp] theorem withThreshold_threshold {e : Evaluator} {severity : Severity} {t : Threshold}
    (h : e.threshold severity = some t) : e.withThreshold t severity = e := by
  cases severity with
  | warning =>
    show { e with warning := some t } = e
    rw [← h]
    rfl
  | critical =>
    show { e with critical := some t } = e
    rw [← h]
    rfl

theorem threshold_withThreshold (e : Evaluator) (t : Threshold) (severity other : Severity) :
    (e.withThreshold t severity).threshold other =
      if other = severity then some t else e.threshold other := by
  cases severity <;> cases other <;> rfl

/-- An edit of the ranges of a severity where they stand. What the edit leaves there stays, also
    where it fails. -/
def editThreshold (severity : Severity) (edit : ThresholdSet.Edit) : InPlace Evaluator Unit :=
  ExceptT.mk fun e =>
    match e.threshold severity with
    | none => (.ok (), e)
    | some t =>
      let (result, ranges) := attempt edit.perform t.ranges
      (result, e.withThreshold { t with ranges } severity)

/-- The record with the mark of a range that it violates. -/
def marked (severity : Severity) (r : Record) : Option String → Record
  | none => r
  | some raw =>
    match severity with
    | .warning => { r with state := severity.status, warning := some raw }
    | .critical => { r with state := severity.status, critical := some raw }

/-- Tests a record for one severity, and marks it. -/
def test (e : Evaluator) (r : Record) (severity : Severity) : Except Fault Record :=
  (Threshold.matched severity r.slot r.value (e.threshold severity)).map (marked severity r)

/-- The record of a measurement before it is tested. -/
def untested (m : Measurement) (scale : Option Scale) : Record :=
  ⟨m.name, m.value, m.min, m.max, scale, m.slot, .ok, none, none⟩

/-- The record of a measurement, tested for warning and then for critical. -/
def tested (e : Evaluator) (m : Measurement) : Except Fault Record := do
  let scale ← readScale m.scale
  Severity.all.foldlM e.test (untested m scale)

end Evaluator

namespace Call

open Evaluator

/-- The call as a row of steps. A measurement answers with its state. -/
def perform : Call → InPlace Evaluator (Option Status)
  | enable severity ranges required => do
    modify fun e => e.enable severity ranges required
    return none
  | edit severity change => do
    editThreshold severity change
    return none
  | setRequired severity required => do
    modify fun e => e.setRequired severity required
    return none
  | setValue m => do
    if m.slot = 0 then throw (.misuse (.slotZero m.name))
    if m.value.isNaN then throw (.notNumeric m.name m.value.text)
    let record ← (← get).tested m
    modify fun e => { e with records := store record e.records }
    return some record.state

/-- The call as an operation on values. -/
def apply : Call → Evaluator → Except Fault (Option Status × Evaluator)
  | enable severity ranges required, e => .ok (none, e.enable severity ranges required)
  | edit severity change, e => (e.changeRanges severity change.apply).map fun next => (none, next)
  | setRequired severity required, e => .ok (none, e.setRequired severity required)
  | setValue m, e => (e.setValue m).map fun (state, next) => (some state, next)

end Call

/-! ## 2. The two forms agree -/

namespace Evaluator

theorem attempt_editThreshold (severity : Severity) (edit : ThresholdSet.Edit) (e : Evaluator) :
    attempt (editThreshold severity edit) e =
      commit e ((e.changeRanges severity edit.apply).map fun next => ((), next)) := by
  unfold changeRanges
  show editThreshold severity edit e = _
  unfold editThreshold ExceptT.mk
  dsimp only
  cases ht : e.threshold severity with
  | none => rfl
  | some t =>
    dsimp only
    rw [ThresholdSet.attempt_perform]
    cases edit.apply t.ranges with
    | ok ranges => rfl
    | error fault =>
      -- the failed edit left the ranges as it met them, so nothing new is put in force
      show (Except.error fault, e.withThreshold t severity) = (.error fault, e)
      rw [withThreshold_threshold ht]

/-- **The marks of both severities make the record that is judged.** -/
theorem tested_eq_judge (e : Evaluator) {m : Measurement} (hslot : m.slot ≠ 0)
    (hvalue : m.value.isNaN = false) : e.tested m = e.judge m := by
  unfold tested judge
  rw [if_neg hslot, if_neg (by rw [hvalue]; decide)]
  cases readScale m.scale with
  | error fault => rfl
  | ok scale =>
    show (e.test (untested m scale) .warning >>= fun r => e.test r .critical >>= pure) = _
    have hwarning : e.test (untested m scale) .warning =
        (Threshold.matched .warning m.slot m.value e.warning).map
          (marked .warning (untested m scale)) := rfl
    rw [hwarning]
    cases Threshold.matched .warning m.slot m.value e.warning with
    | error fault => rfl
    | ok warning =>
      -- a mark keeps slot and value, so the second test is that of the measurement too
      have hcritical : e.test (marked .warning (untested m scale) warning) .critical =
          (Threshold.matched .critical m.slot m.value e.critical).map
            (marked .critical (marked .warning (untested m scale) warning)) := by
        cases warning <;> rfl
      show (e.test (marked .warning (untested m scale) warning) .critical >>= pure) = _
      rw [hcritical]
      cases Threshold.matched .critical m.slot m.value e.critical with
      | error fault => rfl
      | ok critical => cases warning <;> cases critical <;> rfl

end Evaluator

/-- **In place, a call is the operation on values.** -/
theorem attempt_call (call : Call) (e : Evaluator) :
    attempt call.perform e = commit e (call.apply e) := by
  cases call with
  | enable severity ranges required => rfl
  | edit severity change =>
    unfold Call.perform Call.apply
    dsimp only
    rw [attempt_bind, Evaluator.attempt_editThreshold]
    cases e.changeRanges severity change.apply with
    | ok next => rfl
    | error fault => rfl
  | setRequired severity required => rfl
  | setValue m =>
    unfold Call.perform Call.apply
    dsimp only
    unfold Evaluator.setValue
    by_cases hslot : m.slot = 0
    · rw [if_pos hslot, attempt_bind, attempt_throw, Evaluator.judge, if_pos hslot]
      rfl
    · rw [if_neg hslot]
      by_cases hvalue : m.value.isNaN = true
      · rw [if_pos hvalue, attempt_bind, attempt_throw, Evaluator.judge, if_neg hslot, if_pos hvalue]
        rfl
      · rw [if_neg hvalue]
        simp only [attempt_bind, attempt_get, andThen, attempt_lift]
        rw [Evaluator.tested_eq_judge e hslot (by simpa using hvalue)]
        cases e.judge m with
        | error fault => rfl
        | ok record => rfl

/-- In place, a measurement answers with the state of its record, or with its fault. -/
theorem Evaluator.attempt_setValue (e : Evaluator) (m : Measurement) :
    attempt (Call.setValue m).perform e =
      match e.judge m with
      | .error fault => (.error fault, e)
      | .ok r => (.ok (some r.state), { e with records := store r e.records }) := by
  rw [attempt_call]
  unfold Call.apply
  dsimp only
  unfold Evaluator.setValue
  cases e.judge m with
  | error fault => rfl
  | ok r => rfl

end ThresholdCheck
