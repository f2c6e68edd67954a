import ThresholdCheck.Proofs.Evaluator.Call
import ThresholdCheck.Proofs.Evaluator.Judging
import ThresholdCheck.Proofs.Evaluator.Records

/-!
# The verdict on a measurement, and the faults that keep it from one

A measurement may have several faults at once: they are listed in the order in which they are told
(`Evaluator.faults`). One without a fault is judged by the range at its slot, for each severity that
has one there, and critical outranks warning (`Evaluator.Verdict`).

* `matched_eq`: the test for one severity, in these terms;
* **`head?_faults`**: a measurement is refused with the first of its faults;
* **`verdict_of_judge`**: otherwise its record is the verdict on it;
* **`setValue_verdict`**: so it is in place, and the record is the one that its name has then.
-/

namespace ThresholdCheck

/-! ## 1. Units -/

/-- The text spells no unit, in ASCII letters of either case. -/
def Scale.Unknown (text : String) : Prop := ∀ s ∈ all, folded s.token ≠ folded text

instance (text : String) : Decidable (Scale.Unknown text) :=
  inferInstanceAs (Decidable (∀ s ∈ Scale.all, _))

theorem Scale.ofText?_eq_none_iff {text : String} : ofText? text = none ↔ Unknown text := by
  unfold ofText? Unknown
  simp

namespace Evaluator

/-- A unit is not known, or is read as the one that is spelled. -/
theorem readScale_cases (scale : Option String) :
    (∃ text, scale = some text ∧ Scale.Unknown text ∧
      readScale scale = .error (.unknownScale text)) ∨
    (∃ unit, readScale scale = .ok unit ∧ (∀ text, scale = some text → ¬Scale.Unknown text) ∧
      (unit.map fun s => Scale.folded s.token) = scale.map Scale.folded) := by
  cases scale with
  | none => exact .inr ⟨none, rfl, by simp, rfl⟩
  | some text =>
    cases hread : Scale.ofText? text with
    | none => exact .inl ⟨text, rfl, Scale.ofText?_eq_none_iff.1 hread, by simp [readScale, hread]⟩
    | some unit =>
      have hspelled : Scale.folded unit.token = Scale.folded text :=
        Scale.ofText?_eq_some_iff.1 hread
      refine .inr ⟨some unit, by simp [readScale, hread], fun other hother hunknown => ?_, ?_⟩
      · cases hother
        exact hunknown unit (Scale.mem_all unit) hspelled
      · rw [Option.map_some, Option.map_some, hspelled]

/-! ## 2. One severity -/

/-- Each measurement needs a range of the severity, and there is none at the slot. -/
def Lacks (e : Evaluator) (severity : Severity) (slot : Nat) : Prop :=
  ∃ t ∈ e.threshold severity, t.required = true ∧ t.ranges.size < slot

instance (e : Evaluator) (severity : Severity) (slot : Nat) : Decidable (e.Lacks severity slot) :=
  inferInstanceAs (Decidable (∃ t ∈ e.threshold severity, _))

/-- The range of the severity that a measurement violates. -/
def violated? (e : Evaluator) (severity : Severity) (m : Measurement) : Option Range :=
  (e.threshold severity).bind fun t => (t.ranges.get? m.slot).filter fun r => r.violatedBy m.value

section

variable {e : Evaluator} {severity : Severity} {slot : Nat} {t : Threshold}

theorem not_lacks_of_none (h : e.threshold severity = none) : ¬e.Lacks severity slot := by
  simp [Lacks, h]

theorem lacks_iff (h : e.threshold severity = some t) :
    e.Lacks severity slot ↔ t.required = true ∧ t.ranges.size < slot := by
  simp [Lacks, h]

end

/-- **A severity lacks a range, or the text of the range is kept if it is violated.** -/
theorem matched_eq (e : Evaluator) (severity : Severity) {m : Measurement} (hslot : m.slot ≠ 0) :
    Threshold.matched severity m.slot m.value (e.threshold severity) =
      if e.Lacks severity m.slot then .error (.missingThreshold severity m.slot)
      else .ok ((e.violated? severity m).map Range.raw) := by
  obtain ⟨i, hi⟩ : ∃ i, m.slot = i + 1 := ⟨m.slot - 1, by omega⟩
  unfold violated?
  cases ht : e.threshold severity with
  | none =>
    rw [if_neg (not_lacks_of_none ht)]
    rfl
  | some t =>
    rw [if_congr (lacks_iff ht) rfl rfl]
    obtain ⟨⟨mode, ranges⟩, required⟩ := t
    rw [Threshold.matched_some severity m.value hslot, hi]
    rfl

/-! ## 3. Faults -/

/-- The faults of a measurement, in the order in which they are told. -/
def faults (e : Evaluator) (m : Measurement) : List Fault :=
  (if m.slot = 0 then [.misuse (.slotZero m.name)] else []) ++
  (if m.value.isNaN = true then [.notNumeric m.name m.value.text] else []) ++
  (m.scale.toList.filter fun text => Scale.Unknown text).map .unknownScale ++
  (Severity.all.filter fun severity => e.Lacks severity m.slot).map fun severity =>
    .missingThreshold severity m.slot

/-- The severities without a range are told in their order. -/
theorem head?_missing (e : Evaluator) (slot : Nat) :
    ((Severity.all.filter fun severity => e.Lacks severity slot).map fun severity =>
        Fault.missingThreshold severity slot).head? =
      if e.Lacks .warning slot then some (.missingThreshold .warning slot)
      else if e.Lacks .critical slot then some (.missingThreshold .critical slot)
      else none := by
  unfold Severity.all
  by_cases hw : e.Lacks .warning slot
  · simp [hw]
  · by_cases hc : e.Lacks .critical slot
    · simp [hw, hc]
    · simp [hw, hc]

/-- **A measurement is refused with the first of its faults.** -/
theorem head?_faults (e : Evaluator) (m : Measurement) :
    (e.faults m).head? =
      match e.judge m with
      | .error fault => some fault
      | .ok _ => none := by
  unfold faults judge
  rw [List.head?_append, List.head?_append, List.head?_append, head?_missing]
  by_cases hslot : m.slot = 0
  · rw [if_pos hslot, if_pos hslot]
    rfl
  · by_cases hvalue : m.value.isNaN = true
    · rw [if_neg hslot, if_pos hvalue, if_neg hslot, if_pos hvalue]
      rfl
    · have hwarning : Threshold.matched .warning m.slot m.value e.warning = _ :=
        e.matched_eq .warning hslot
      have hcritical : Threshold.matched .critical m.slot m.value e.critical = _ :=
        e.matched_eq .critical hslot
      rw [if_neg hslot, if_neg hvalue, if_neg hslot, if_neg hvalue, hwarning, hcritical]
      rcases readScale_cases m.scale with ⟨text, htext, hunknown, hread⟩ | ⟨unit, hread, hknown, -⟩
      · have hunits : (m.scale.toList.filter fun text => Scale.Unknown text) = [text] := by
          simp [htext, hunknown]
        rw [hread, hunits]
        rfl
      · have hunits : (m.scale.toList.filter fun text => Scale.Unknown text) = [] := by
          simpa using hknown
        rw [hread, hunits]
        by_cases hw : e.Lacks .warning m.slot
        · rw [if_pos hw, if_pos hw]
          rfl
        · by_cases hc : e.Lacks .critical m.slot
          · rw [if_neg hw, if_pos hc, if_neg hw, if_pos hc]
            rfl
          · rw [if_neg hw, if_neg hc, if_neg hw, if_neg hc]
            rfl

theorem judge_eq_error_iff {e : Evaluator} {m : Measurement} {fault : Fault} :
    e.judge m = .error fault ↔ (e.faults m).head? = some fault := by
  rw [head?_faults]
  cases e.judge m with
  | error cause => simp
  | ok r => simp

/-- What faults a measurement may have. -/
theorem faults_ne_nil_iff {e : Evaluator} {m : Measurement} :
    e.faults m ≠ [] ↔
      m.slot = 0 ∨ m.value.isNaN = true ∨ (∃ text, m.scale = some text ∧ Scale.Unknown text) ∨
        ∃ severity, e.Lacks severity m.slot := by
  have hzero : (if m.slot = 0 then [Fault.misuse (.slotZero m.name)] else []) = [] ↔
      ¬m.slot = 0 := by simp
  have hvalue : (if m.value.isNaN = true then [Fault.notNumeric m.name m.value.text] else []) = [] ↔
      ¬m.value.isNaN = true := by simp
  have hscale : (m.scale.toList.filter fun text => Scale.Unknown text).map Fault.unknownScale = [] ↔
      ¬∃ text, m.scale = some text ∧ Scale.Unknown text := by
    simp [List.filter_eq_nil_iff]
  have hrange : ((Severity.all.filter fun severity => e.Lacks severity m.slot).map fun severity =>
      Fault.missingThreshold severity m.slot) = [] ↔ ¬∃ severity, e.Lacks severity m.slot := by
    have hall : ∀ severity : Severity, severity ∈ Severity.all := by
      intro severity
      cases severity <;> decide
    simp [List.filter_eq_nil_iff, hall]
  unfold faults
  rw [Ne, List.append_eq_nil_iff, List.append_eq_nil_iff, List.append_eq_nil_iff, hzero, hvalue,
    hscale, hrange]
  simp only [not_and_or, not_not, or_assoc]

/-! ## 4. The verdict -/

/-- The record is the verdict on a measurement under the thresholds in force. -/
structure Verdict (e : Evaluator) (m : Measurement) (r : Record) : Prop where
  name : r.name = m.name
  value : r.value = m.value
  min : r.min = m.min
  max : r.max = m.max
  slot : r.slot = m.slot
  scale : (r.scale.map fun s => Scale.folded s.token) = m.scale.map Scale.folded
  state : r.state =
    if (e.violated? .critical m).isSome then .critical
    else if (e.violated? .warning m).isSome then .warning
    else .ok
  warning : r.warning = (e.violated? .warning m).map Range.raw
  critical : r.critical = (e.violated? .critical m).map Range.raw

/-- **The record of a measurement is the verdict on it.** -/
theorem verdict_of_judge {e : Evaluator} {m : Measurement} {r : Record} (h : e.judge m = .ok r) :
    e.Verdict m r := by
  obtain ⟨hslot, -, scale, warning, critical, hscale, hwarning, hcritical, rfl⟩ :=
    judge_eq_ok_iff.1 h
  have hunit : (scale.map fun s => Scale.folded s.token) = m.scale.map Scale.folded := by
    rcases readScale_cases m.scale with ⟨text, -, -, hread⟩ | ⟨unit, hread, -, hspelled⟩
    · rw [hread] at hscale
      cases hscale
    · rw [hread] at hscale
      cases hscale
      exact hspelled
  have hkept : ∀ severity found,
      Threshold.matched severity m.slot m.value (e.threshold severity) = .ok found →
        found = (e.violated? severity m).map Range.raw := by
    intro severity found hfound
    rw [matched_eq e severity hslot] at hfound
    split at hfound
    · cases hfound
    · exact (Except.ok.inj hfound).symm
  have hw := hkept .warning warning hwarning
  have hc := hkept .critical critical hcritical
  refine ⟨rfl, rfl, rfl, rfl, rfl, hunit, ?_, hw, hc⟩
  show stateOf warning critical = _
  unfold stateOf
  rw [hw, hc, Option.isSome_map, Option.isSome_map]

theorem exists_judge_of_faults {e : Evaluator} {m : Measurement} (h : e.faults m = []) :
    ∃ r, e.judge m = .ok r := by
  cases hjudge : e.judge m with
  | ok r => exact ⟨r, rfl⟩
  | error fault =>
    rw [judge_eq_error_iff, h] at hjudge
    cases hjudge

/-! ## 5. In place -/

/-- **A measurement is refused with the first of its faults,** and then nothing is recorded. One
    without a fault gives the state of its verdict, and the verdict is the record that its name has
    from then on. -/
theorem setValue_verdict (e : Evaluator) (m : Measurement) :
    let outcome := attempt (Call.setValue m).perform e
    ((∃ fault, outcome.1 = .error fault) ↔
      m.slot = 0 ∨ m.value.isNaN = true ∨ (∃ text, m.scale = some text ∧ Scale.Unknown text) ∨
        ∃ severity, e.Lacks severity m.slot) ∧
    (∀ fault, outcome.1 = .error fault ↔ (e.faults m).head? = some fault) ∧
    (∀ fault, outcome.1 = .error fault → outcome.2 = e) ∧
    (e.faults m = [] →
      ∃ r, e.Verdict m r ∧ outcome.1 = .ok (some r.state) ∧
        outcome.2 = { e with records := store r e.records } ∧
        outcome.2.record? m.name = some r) := by
  intro outcome
  have houtcome : outcome = _ := attempt_setValue e m
  have hfirst : ∀ fault, outcome.1 = .error fault ↔ (e.faults m).head? = some fault := by
    intro fault
    rw [← judge_eq_error_iff, houtcome]
    cases e.judge m with
    | error cause => simp
    | ok r => simp
  refine ⟨?_, hfirst, fun fault h => ?_, fun h => ?_⟩
  · rw [← faults_ne_nil_iff, ← List.isSome_head?, Option.isSome_iff_exists]
    exact exists_congr hfirst
  · have hjudge : e.judge m = .error fault := judge_eq_error_iff.2 ((hfirst fault).1 h)
    rw [houtcome, hjudge]
  · obtain ⟨r, hjudge⟩ := exists_judge_of_faults h
    have hverdict : e.Verdict m r := verdict_of_judge hjudge
    rw [hjudge] at houtcome
    refine ⟨r, hverdict, congrArg Prod.fst houtcome, congrArg Prod.snd houtcome, ?_⟩
    rw [houtcome, ← hverdict.name]
    exact find?_store r e.records

theorem setValue_verdict_missingCritical :
    let warning : ThresholdSet := (ThresholdSet.empty .zeroFloor).edited [.append "10,10"]
    let critical : ThresholdSet := (ThresholdSet.empty .zeroFloor).edited [.append "20"]
    let e := (empty.enable .warning warning false).enable .critical critical true
    let first : Measurement := ⟨"load", .infinity, none, none, some "kb", 1⟩
    let second : Measurement := { first with slot := 2 }
    (e.violated? .warning second).isSome = true ∧
    (attempt (Call.setValue second).perform e).1 = .error (.missingThreshold .critical 2) ∧
    e.faults first = [] ∧
    ∃ r, e.Verdict first r ∧ (attempt (Call.setValue first).perform e).1 = .ok (some r.state) := by
  intro warning critical e first second
  have hviolated : (e.violated? .warning second).isSome = true := by decide +kernel
  have hmissing : (e.faults second).head? = some (.missingThreshold .critical 2) := by
    have hunit : ¬Scale.Unknown "kb" := by decide +kernel
    have hw : ¬e.Lacks .warning 2 := by decide +kernel
    have hc : e.Lacks .critical 2 := by decide +kernel
    have hnumber : Binary64.infinity.isNaN = false := rfl
    simp [faults, Severity.all, second, first, hunit, hw, hc, hnumber]
  have hnone : e.faults first = [] := List.isEmpty_iff.1 (by decide +kernel)
  obtain ⟨r, hverdict, hstate, -⟩ := (setValue_verdict e first).2.2.2 hnone
  exact ⟨hviolated, ((setValue_verdict e second).2.1 _).2 hmissing, hnone, r, hverdict, hstate⟩

end Evaluator

end ThresholdCheck
