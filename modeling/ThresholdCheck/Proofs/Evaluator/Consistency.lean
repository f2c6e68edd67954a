import ThresholdCheck.Proofs.Evaluator.LastWriter
import ThresholdCheck.Proofs.Record
import ThresholdCheck.Proofs.Report
import ThresholdCheck.Proofs.ThresholdSet.Text

/-!
# An evaluator stays consistent

A record keeps its state and the texts of the ranges it violated side by side, and it outlives the
ranges. That the two agree is an invariant of evaluator, ranges and records together
(`Evaluator.Consistent`).

* `judge_consistent`: a record that is judged by readable ranges is consistent;
* **`attempt_consistent`**: each call keeps an evaluator consistent;
* `after_consistent`: so does each run;
* **`Consistent.overall_eq_verdict`**: the tokens of consistent records alone tell the worst state;
* **`after_tokens_tell`**: so after each run the tokens tell the report.
-/

namespace ThresholdCheck

/-! ## 1. Consistent records -/

/-- What a record is that was judged by readable ranges. -/
structure Record.Consistent (r : Record) : Prop where
  number : r.value.isNaN = false
  slot : 1 ≤ r.slot
  state : r.state = Evaluator.stateOf r.warning r.critical
  legible : r.Legible

/-- The ranges of the threshold are readable in their own mode. -/
def Threshold.Readable (t : Threshold) : Prop := t.ranges.Readable t.ranges.mode

/-- A set that is readable in some mode is so in its own. -/
theorem Threshold.readable_of {mode : Mode} {ranges : ThresholdSet} (h : ranges.Readable mode)
    (required : Bool) : Threshold.Readable ⟨ranges, required⟩ := by
  unfold Threshold.Readable
  rw [h.mode_eq]
  exact h

/-- A range is at a slot only if it is one of the set. -/
theorem ThresholdSet.mem_of_get? {s : ThresholdSet} {slot : Nat} {r : Range}
    (h : s.get? slot = some r) : r ∈ s.ranges := by
  cases slot with
  | zero => cases h
  | succ i => exact List.mem_of_getElem? h

/-- The text that a severity leaves in a record is one of a readable range. -/
theorem Threshold.isText_of_matched {severity : Severity} {slot : Nat} {value : Binary64}
    {threshold : Option Threshold} (readable : ∀ t, threshold = some t → t.Readable)
    {raw : String} (h : Threshold.matched severity slot value threshold = .ok (some raw)) :
    Range.IsText raw := by
  cases threshold with
  | none => cases h
  | some t =>
    unfold Threshold.matched at h
    dsimp only at h
    split at h
    · split at h
      · cases h
      · cases h
    · rename_i range hrange
      have hmem : range ∈ t.ranges.ranges := ThresholdSet.mem_of_get? hrange
      have hreadable := (readable t rfl).ranges range hmem
      split at h
      · cases h
        exact hreadable.raw_isText
      · cases h

/-! ## 2. What a token tells -/

/-- The status that tokens tell: critical if one names a range that is violated for critical, else
    warning if one names a range that is violated for warning. -/
def Token.verdict (tokens : List String) : Status :=
  if ∃ t ∈ tokens, Token.critical t ≠ [] then .critical
  else if ∃ t ∈ tokens, Token.warning t ≠ [] then .warning
  else .ok

theorem Token.verdict_ne_unknown (tokens : List String) : Token.verdict tokens ≠ .unknown := by
  unfold Token.verdict
  split
  · decide
  · split <;> decide

/-- A text of a range that may be absent is absent exactly if nothing is written of it. -/
theorem Range.getD_ne_nil_iff {matched : Option String}
    (h : ∀ raw, matched = some raw → Range.IsText raw) :
    (matched.getD "").toList ≠ [] ↔ matched.isSome := by
  cases matched with
  | none => simp
  | some raw =>
    have hraw : raw.toList ≠ [] := fun hnil => (h raw rfl).1 (String.toList_eq_nil_iff.1 hnil)
    exact iff_of_true hraw rfl

namespace Record.Consistent

variable {r : Record}

theorem critical_token_iff (h : r.Consistent) :
    Token.critical r.token ≠ [] ↔ r.state = .critical := by
  rw [Token.critical_token h.legible, Range.getD_ne_nil_iff h.legible.2, h.state,
    Evaluator.stateOf_eq_critical_iff]

theorem warning_token_iff (h : r.Consistent) (hstate : r.state ≠ .critical) :
    Token.warning r.token ≠ [] ↔ r.state = .warning := by
  have hcritical : r.critical = none := by
    rw [h.state, Ne, Evaluator.stateOf_eq_critical_iff, Option.not_isSome_iff_eq_none] at hstate
    exact hstate
  rw [Token.warning_token h.legible, Range.getD_ne_nil_iff h.legible.1, h.state,
    Evaluator.stateOf_eq_warning_iff]
  exact ⟨fun hw => ⟨hw, hcritical⟩, And.left⟩

theorem state_ne_unknown (h : r.Consistent) : r.state ≠ .unknown := by
  rw [h.state]
  exact Evaluator.stateOf_ne_unknown

end Record.Consistent

/-! ## 3. The invariant -/

/-- The ranges that a call brings are such as can be made: by edits of a set without ranges. -/
def Call.Feasible : Call → Prop
  | .enable _ ranges _ => ∃ mode edits, ranges = (ThresholdSet.empty mode).edited edits
  | _ => True

namespace Evaluator

/-- The thresholds are readable, no two records have one name, and each is consistent. -/
structure Consistent (e : Evaluator) : Prop where
  readable : ∀ severity t, e.threshold severity = some t → t.Readable
  distinct : (e.records.map Record.name).Nodup
  records : ∀ r ∈ e.records, r.Consistent

theorem consistent_empty : empty.Consistent where
  readable severity t h := by cases severity <;> cases h
  distinct := List.nodup_nil
  records r hr := absurd hr List.not_mem_nil

variable {e : Evaluator}

/-- **A record that is judged by readable ranges is consistent.** -/
theorem judge_consistent (readable : ∀ severity t, e.threshold severity = some t → t.Readable)
    {m : Measurement} {r : Record} (h : e.judge m = .ok r) : r.Consistent := by
  obtain ⟨hslot, hnumber, scale, warning, critical, -, hwarning, hcritical, rfl⟩ :=
    judge_eq_ok_iff.1 h
  have hlegible : (recordOf m scale warning critical).Legible := by
    constructor
    · intro raw hraw
      cases hraw
      exact Threshold.isText_of_matched (readable .warning) hwarning
    · intro raw hraw
      cases hraw
      exact Threshold.isText_of_matched (readable .critical) hcritical
  exact ⟨hnumber, Nat.one_le_iff_ne_zero.2 hslot, rfl, hlegible⟩

namespace Consistent

/-! ## 4. What keeps it -/

/-- A readable threshold may be put in force. -/
theorem withThreshold (h : e.Consistent) {t : Threshold} (ht : t.Readable) (severity : Severity) :
    (e.withThreshold t severity).Consistent := by
  refine ⟨fun other t' ht' => ?_, ?_, ?_⟩
  · rw [threshold_withThreshold] at ht'
    by_cases hother : other = severity
    · rw [if_pos hother] at ht'
      cases ht'
      exact ht
    · rw [if_neg hother] at ht'
      exact h.readable other t' ht'
  · rw [records_withThreshold]
    exact h.distinct
  · rw [records_withThreshold]
    exact h.records

theorem changeRanges (h : e.Consistent) {severity : Severity} {edit : ThresholdSet.Edit}
    {next : Evaluator} (hedit : e.changeRanges severity edit.apply = .ok next) :
    next.Consistent := by
  unfold Evaluator.changeRanges at hedit
  cases ht : e.threshold severity with
  | none =>
    rw [ht] at hedit
    cases hedit
    exact h
  | some t =>
    rw [ht] at hedit
    obtain ⟨ranges, hranges, rfl⟩ := map_eq_ok hedit
    have hkept : ranges.Readable t.ranges.mode := (h.readable severity t ht).edit hranges
    exact h.withThreshold (Threshold.readable_of hkept t.required) severity

theorem setRequired (h : e.Consistent) (severity : Severity) (required : Bool) :
    (e.setRequired severity required).Consistent := by
  unfold Evaluator.setRequired
  cases ht : e.threshold severity with
  | none => exact h
  | some t =>
    have hreadable : t.Readable := h.readable severity t ht
    exact h.withThreshold (Threshold.readable_of hreadable required) severity

/-- A consistent record may be stored. -/
theorem store (h : e.Consistent) {r : Record} (hr : r.Consistent) :
    Consistent { e with records := store r e.records } where
  readable := h.readable
  distinct := nodup_store h.distinct
  records q hq := by
    rcases mem_store h.distinct hq with rfl | ⟨hmem, -⟩
    · exact hr
    · exact h.records q hmem

theorem setValue (h : e.Consistent) {m : Measurement} {state : Status} {next : Evaluator}
    (hset : e.setValue m = .ok (state, next)) : next.Consistent := by
  obtain ⟨r, hjudge, -, rfl⟩ := setValue_eq_ok_iff.1 hset
  exact h.store (judge_consistent h.readable hjudge)

end Consistent

/-! ## 5. Runs -/

/-- **Each call keeps an evaluator consistent.** -/
theorem attempt_consistent {e : Evaluator} (h : e.Consistent) {call : Call}
    (feasible : call.Feasible) : (attempt call.perform e).2.Consistent := by
  rw [attempt_call]
  refine commit_induction h fun answer next hnext => ?_
  cases call with
  | enable severity ranges required =>
    obtain ⟨mode, edits, rfl⟩ := feasible
    have hranges := ThresholdSet.edited_readable mode edits
    cases hnext
    exact h.withThreshold (Threshold.readable_of hranges required) severity
  | edit severity change =>
    obtain ⟨e', hchange, heq⟩ := map_eq_ok hnext
    cases heq
    exact h.changeRanges hchange
  | setRequired severity required =>
    cases hnext
    exact h.setRequired severity required
  | setValue m =>
    obtain ⟨⟨state, e'⟩, hset, heq⟩ := map_eq_ok hnext
    cases heq
    exact h.setValue hset

theorem after_consistent {e : Evaluator} (h : e.Consistent) {calls : List Call}
    (feasible : ∀ call ∈ calls, call.Feasible) : (e.after calls).Consistent := by
  refine afterAll_induction h fun change hchange e he => ?_
  obtain ⟨call, hcall, rfl⟩ := List.mem_map.1 hchange
  exact attempt_consistent he (feasible call hcall)

/-! ## 6. The report -/

/-- **The tokens of consistent records alone tell the worst state.** -/
theorem Consistent.overall_eq_verdict {e : Evaluator} (h : e.Consistent) :
    Report.overall e.records = Token.verdict (e.records.map Record.token) := by
  have hcritical : (∃ t ∈ e.records.map Record.token, Token.critical t ≠ []) ↔
      ∃ r ∈ e.records, r.state = .critical := by
    simp only [List.mem_map, exists_exists_and_eq_and]
    exact exists_congr fun r => and_congr_right fun hr => (h.records r hr).critical_token_iff
  rw [Report.overall_of_known fun r hr => (h.records r hr).state_ne_unknown]
  unfold Token.verdict
  by_cases hworst : ∃ r ∈ e.records, r.state = .critical
  · rw [if_pos hworst, if_pos (hcritical.2 hworst)]
  · have hmild : ∀ r ∈ e.records, r.state ≠ .critical := fun r hr hstate => hworst ⟨r, hr, hstate⟩
    have hwarning : (∃ t ∈ e.records.map Record.token, Token.warning t ≠ []) ↔
        ∃ r ∈ e.records, r.state = .warning := by
      simp only [List.mem_map, exists_exists_and_eq_and]
      exact exists_congr fun r => and_congr_right fun hr =>
        (h.records r hr).warning_token_iff (hmild r hr)
    rw [if_neg hworst, if_neg (mt hcritical.1 hworst)]
    simp only [hwarning]

/-- **After any run, the records have distinct names, and the state of each agrees with the texts of
    the ranges that it violated. So the tokens alone tell the status of a report.** -/
theorem after_tokens_tell {calls : List Call} (feasible : ∀ call ∈ calls, call.Feasible) :
    ((empty.after calls).records.map Record.name).Nodup ∧
    (∀ r ∈ (empty.after calls).records,
      r.value.isNaN = false ∧ 1 ≤ r.slot ∧
      (r.state = .critical ↔ r.critical.isSome) ∧
      (r.state = .warning ↔ r.warning.isSome ∧ r.critical = none) ∧
      (r.state = .ok ↔ r.warning = none ∧ r.critical = none) ∧
      r.state ≠ .unknown ∧
      r.warning ≠ some "" ∧ r.critical ≠ some "") ∧
    ∀ message,
      let status := Token.verdict ((empty.after calls).records.map Record.token)
      let report := (empty.after calls).report message
      report.status = status ∧
      report.exitCode = status.exitCode ∧ report.exitCode ≠ 3 ∧
      report.line = "Status " ++ status.word ++
        (message.map fun m => ", " ++ Report.sanitize m).getD "" ++
        Report.performance (empty.after calls).records := by
  have h := after_consistent consistent_empty feasible
  refine ⟨h.distinct, fun r hr => ?_, fun message => ?_⟩
  · have hr := h.records r hr
    have hwarning : r.warning ≠ some "" := fun heq => (hr.legible.1 "" heq).1 rfl
    have hcritical : r.critical ≠ some "" := fun heq => (hr.legible.2 "" heq).1 rfl
    rw [hr.state]
    exact ⟨hr.number, hr.slot, stateOf_eq_critical_iff, stateOf_eq_warning_iff, stateOf_eq_ok_iff,
      stateOf_ne_unknown, hwarning, hcritical⟩
  · intro status report
    have hstatus : report.status = status := h.overall_eq_verdict
    have hcode : report.exitCode = status.exitCode := congrArg Status.exitCode hstatus
    refine ⟨hstatus, hcode, ?_, ?_⟩
    · rw [hcode]
      exact Status.exitCode_ne_three (Token.verdict_ne_unknown _)
    · rw [← hstatus, ← Report.headline_eq_append]
      rfl

theorem after_tokens_tell_replaced :
    let first : ThresholdSet := (ThresholdSet.empty .zeroFloor).edited [.append "10"]
    let calls : List Call :=
      [.enable .warning first false, .setValue (Measurement.plain "load;1" .infinity),
        .edit .warning (.setSlot 1 .zero .infinity true)]
    (∀ call ∈ calls, call.Feasible) ∧
    Token.verdict ((empty.after calls).records.map Record.token) = .warning ∧
    ((empty.after calls).report (some "late")).line = "Status Warning, late|load;1=inf;10;;;" := by
  intro first calls
  have feasible : ∀ call ∈ calls, call.Feasible := by
    simp only [calls, List.forall_mem_cons]
    exact ⟨⟨.zeroFloor, [.append "10"], rfl⟩, trivial, trivial,
      fun call hcall => absurd hcall List.not_mem_nil⟩
  obtain ⟨hstatus, -, -, hline⟩ := (after_tokens_tell feasible).2.2 (some "late")
  have hwarning : Token.verdict ((empty.after calls).records.map Record.token) = .warning :=
    hstatus.symm.trans (by decide +kernel)
  rw [hwarning] at hline
  exact ⟨feasible, hwarning, hline.trans (by decide +kernel)⟩

end Evaluator

end ThresholdCheck
