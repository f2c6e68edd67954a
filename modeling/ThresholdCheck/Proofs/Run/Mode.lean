import ThresholdCheck.Proofs.Check.Evaluation
import ThresholdCheck.Proofs.Range.Mode
import ThresholdCheck.Run

/-!
# The mode matters for values below zero only

A configuration and the same configuration in another mode are compared on one command line. Their
ranges are alike (`Range.Alike`), so they judge a value from zero on the same. The journal, which
names the mode, is no part of a run.

* `collectRanges_agree`, `openEvaluator_agree`: the evaluators that are opened are alike;
* **`Evaluator.judge_of_alike`**: alike evaluators judge a value from zero on the same;
* `evaluate_agree`, `evaluated_agree`: so they come to the same records;
* **`run_mode`**: so ranges are read alike in all modes, and runs are the same where all values are
  from zero on.
-/

namespace ThresholdCheck

open CommandLine (Word Given)

/-! ## 1. Thresholds that are alike -/

/-- One is needed where the other is, and their ranges are alike, slot by slot. -/
structure Threshold.Alike (t t' : Threshold) : Prop where
  required : t.required = t'.required
  ranges : List.Forall₂ Range.Alike t.ranges.ranges t'.ranges.ranges

theorem Range.getElem?_alike {rs rs' : List Range} (h : List.Forall₂ Alike rs rs') (i : Nat) :
    Option.Rel Alike rs[i]? rs'[i]? := by
  induction h generalizing i with
  | nil => exact .none
  | cons hr _ ih =>
    cases i with
    | zero => exact .some hr
    | succ i => exact ih i

/-- **Alike thresholds are violated by the same values from zero on.** -/
theorem Threshold.matched_of_alike (severity : Severity) (slot : Nat) {value : Binary64}
    (hvalue : .zero ≤ value) {t t' : Option Threshold} (h : Option.Rel Alike t t') :
    matched severity slot value t = matched severity slot value t' := by
  cases h with
  | none => rfl
  | @some t t' h =>
    have hslot : Option.Rel Range.Alike (t.ranges.get? slot) (t'.ranges.get? slot) := by
      cases slot with
      | zero => exact .none
      | succ i => exact Range.getElem?_alike h.ranges i
    unfold matched
    dsimp only
    generalize t.ranges.get? slot = found at hslot ⊢
    generalize t'.ranges.get? slot = found' at hslot ⊢
    cases hslot with
    | none =>
      dsimp only
      rw [h.required]
    | some halike =>
      dsimp only
      rw [halike.violated value hvalue, halike.raw]

/-! ## 2. Evaluators that are alike -/

namespace Evaluator

/-- The thresholds are alike, and the records are the same. -/
structure Alike (e e' : Evaluator) : Prop where
  thresholds : ∀ severity, Option.Rel Threshold.Alike (e.threshold severity) (e'.threshold severity)
  records : e.records = e'.records

theorem alike_empty : Alike empty empty where
  thresholds
    | .warning => .none
    | .critical => .none
  records := rfl

theorem Alike.enable {e e' : Evaluator} (h : e.Alike e') {ranges ranges' : ThresholdSet}
    (hranges : List.Forall₂ Range.Alike ranges.ranges ranges'.ranges) (severity : Severity)
    (required : Bool) :
    (e.enable severity ranges required).Alike (e'.enable severity ranges' required) where
  thresholds other := by
    unfold Evaluator.enable
    rw [threshold_withThreshold, threshold_withThreshold]
    by_cases hother : other = severity
    · rw [if_pos hother, if_pos hother]
      exact .some ⟨rfl, hranges⟩
    · rw [if_neg hother, if_neg hother]
      exact h.thresholds other
  records := by
    unfold Evaluator.enable
    rw [records_withThreshold, records_withThreshold]
    exact h.records

/-- **Alike evaluators judge a value from zero on the same.** -/
theorem judge_of_alike {e e' : Evaluator} (h : e.Alike e') {m : Measurement}
    (hvalue : .zero ≤ m.value) : e.judge m = e'.judge m := by
  have hwarning : Threshold.matched .warning m.slot m.value e.warning =
      Threshold.matched .warning m.slot m.value e'.warning :=
    Threshold.matched_of_alike _ _ hvalue (h.thresholds .warning)
  have hcritical : Threshold.matched .critical m.slot m.value e.critical =
      Threshold.matched .critical m.slot m.value e'.critical :=
    Threshold.matched_of_alike _ _ hvalue (h.thresholds .critical)
  unfold judge
  rw [hwarning, hcritical]

theorem setValue_agree {e e' : Evaluator} (h : e.Alike e') {m : Measurement}
    (hvalue : .zero ≤ m.value) :
    Agree (fun p q => p.2.Alike q.2) (e.setValue m) (e'.setValue m) := by
  unfold setValue
  rw [judge_of_alike h hvalue]
  refine (Agree.refl (fun _ => rfl) (e'.judge m)).map fun r r' (hr : r = r') => ?_
  rw [hr, h.records]
  exact ⟨h.thresholds, rfl⟩

end Evaluator

/-! ## 3. The evaluators of two modes -/

/-- Either set is in its mode, and their ranges are alike, slot by slot. -/
structure ThresholdSet.Alike (mode mode' : Mode) (s s' : ThresholdSet) : Prop where
  mode : s.mode = mode
  mode' : s'.mode = mode'
  ranges : List.Forall₂ Range.Alike s.ranges s'.ranges

theorem ThresholdSet.append_agree {mode mode' : Mode} {s s' : ThresholdSet}
    (h : Alike mode mode' s s') (text : String) :
    Agree (Alike mode mode') (s.append text) (s'.append text) := by
  unfold append
  rw [h.mode, h.mode']
  refine (Range.parseList_agree mode mode' text).map fun more more' hmore => ?_
  exact ⟨rfl, rfl, List.rel_append h.ranges hmore⟩

namespace Plugin

theorem collectRanges_agree (mode mode' : Mode) (texts : List String) :
    Agree (ThresholdSet.Alike mode mode') (collectRanges mode texts)
      (collectRanges mode' texts) := by
  have hstart : ThresholdSet.Alike mode mode' (.empty mode) (.empty mode') := ⟨rfl, rfl, .nil⟩
  exact Agree.foldlM hstart fun text _ s s' h => ThresholdSet.append_agree h text

theorem openEvaluator_agree (mode mode' : Mode) (given : Given)
    (severities : List (Severity × Bool)) {e e' : Evaluator} (h : e.Alike e') :
    Agree Evaluator.Alike (openEvaluator mode given severities e)
      (openEvaluator mode' given severities e') := by
  induction severities generalizing e e' with
  | nil => exact .ok h
  | cons first rest ih =>
    refine (collectRanges_agree mode mode' _).bind fun ranges ranges' hranges => ?_
    exact ih (h.enable hranges.ranges first.1 first.2)

end Plugin

namespace Check

/-- All measurements that are read have a value from zero on. -/
def FromZero (texts : List String) : Prop :=
  ∀ text ∈ texts, ∀ a, Argument.parse text = .ok a → .zero ≤ a.value

theorem evaluate_agree (config : Config) (mode : Mode) {text : String} {e e' : Evaluator}
    (h : e.Alike e') (hvalue : ∀ a, Argument.parse text = .ok a → .zero ≤ a.value) :
    Agree Evaluator.Alike (evaluate config e text) (evaluate { config with mode } e' text) := by
  unfold evaluate
  cases hparse : Argument.parse text with
  | error fault => exact .error fault
  | ok a =>
    -- what is declared of the measurement does not depend on the mode
    have hset : Agree (fun p q => p.2.Alike q.2) (e.setValue (a.measurement config))
        (e'.setValue (a.measurement { config with mode })) :=
      Evaluator.setValue_agree (m := a.measurement config) h (hvalue a hparse)
    exact hset.bind fun p q hpq => .ok hpq

theorem evaluated_agree (config : Config) (mode : Mode) {given : Given}
    (fromZero : FromZero given.arguments) :
    Agree Evaluator.Alike (evaluated config given) (evaluated { config with mode } given) := by
  unfold evaluated
  have hopened := Plugin.openEvaluator_agree config.mode mode given (plugin config).enabled
    Evaluator.alike_empty
  refine hopened.bind fun e e' he => ?_
  exact Agree.foldlM he fun text htext s s' hs =>
    evaluate_agree config mode hs (fromZero text htext)

theorem verdict_mode (config : Config) (mode : Mode) {given : Given}
    (fromZero : FromZero given.arguments) :
    verdict config given = verdict { config with mode } given := by
  rw [verdict_eq_report, verdict_eq_report]
  refine Agree.eq ((evaluated_agree config mode fromZero).map fun e e' he => ?_)
  unfold Evaluator.report
  rw [he.records]

end Check

/-! ## 4. The runs -/

namespace Run

/-- **The mode matters for values below zero only.** A text is a range in all modes or in none, with
    the same fault. The ranges have the same text, top and polarity, the same bottom where the start
    is given, and are violated by the same values from zero on. Under two configurations that differ
    in their mode alone, runs are the same where all measurements have values from zero on. -/
theorem run_mode :
    (∀ (mode mode' : Mode) (text : String),
      ((∃ r, Range.parse mode text = .ok r) ↔ ∃ r, Range.parse mode' text = .ok r) ∧
      (∀ fault, Range.parse mode text = .error fault ↔ Range.parse mode' text = .error fault) ∧
      ∀ r r', Range.parse mode text = .ok r → Range.parse mode' text = .ok r' →
        r.raw = r'.raw ∧ r.top = r'.top ∧ r.inverted = r'.inverted ∧
        (Range.GivesStart text → r.bottom = r'.bottom) ∧
        ∀ value, .zero ≤ value → r.violatedBy value = r'.violatedBy value) ∧
    ∀ (source source' : ConfigSource) (config : Config) (mode : Mode) (words : List Word),
      Config.load source = .ok config → Config.load source' = .ok { config with mode } →
      (∀ given, (Check.plugin config).definition.parse words = .ok given →
        Check.FromZero given.arguments) →
      ∀ host, run host source words = run host source' words := by
  refine ⟨fun mode mode' text => ?_, ?_⟩
  · have hagree := Range.parse_agree mode mode' text
    refine ⟨hagree.ok_iff, hagree.error_iff, fun r r' hr hr' => ?_⟩
    rw [hr, hr'] at hagree
    obtain ⟨halike, hbottom⟩ := hagree.rel_of_ok
    exact ⟨halike.raw, halike.top, halike.inverted, hbottom, halike.violated⟩
  · intro source source' config mode words loaded loaded' fromZero host
    have hcheck : check config words = check { config with mode } words := by
      unfold check
      show (((Check.plugin config).definition.parse words).mapError _ >>= _) =
        ((Check.plugin config).definition.parse words).mapError _ >>= _
      cases hparse : (Check.plugin config).definition.parse words with
      | error rejection => rfl
      | ok given => exact Check.verdict_mode config mode (fromZero given hparse)
    unfold run
    rw [loaded, loaded']
    dsimp only
    rw [hcheck]

/-- In one mode the range for warning begins at zero, in the other one it has no bottom. Negative zero
    is inside of it either way and infinity outside, and both runs end with the same line. -/
theorem run_mode_negativeZero :
    let source : ConfigSource := .file "nagrange.toml" (.ok "range_mode = \"simple-range\"")
    let config : Config := { Config.default with mode := .simpleRange }
    let words := ["nagrange", "-w", "10", "-c", "@20:", "load=-0", "disk=1e999"].map Word.ofString
    Config.load .unset = .ok .default ∧ Config.load source = .ok config ∧
    (∀ given, (Check.plugin .default).definition.parse words = .ok given →
      Check.FromZero given.arguments) ∧
    (∀ host, run host .unset words = run host source words) ∧
    (run ⟨.accepting, .accepting⟩ source words).output =
      "Status Critical|load=-0;;;; disk=inf;10;@20:;;\n" := by
  intro source config words
  have loaded : Config.load .unset = .ok .default := rfl
  have loaded' : Config.load source = .ok config := by decide +kernel
  have accepted : (Check.plugin .default).definition.parse words =
      .ok ⟨0, [("warning", "10"), ("critical", "@20:")], ["load=-0", "disk=1e999"]⟩ := rfl
  have fromZero : ∀ given, (Check.plugin .default).definition.parse words = .ok given →
      Check.FromZero given.arguments := by
    intro given hgiven
    rw [accepted] at hgiven
    cases hgiven
    intro text htext a ha
    have hvalue : ∀ text ∈ ["load=-0", "disk=1e999"],
        (Argument.parse text).toOption.all fun a => decide (Binary64.zero ≤ a.value) := by
      decide +kernel
    have hall := hvalue text htext
    rw [ha] at hall
    exact of_decide_eq_true hall
  have same : ∀ host, run host .unset words = run host source words :=
    run_mode.2 .unset source .default .simpleRange words loaded loaded' fromZero
  have hline : (run ⟨.accepting, .accepting⟩ .unset words).output =
      "Status Critical|load=-0;;;; disk=inf;10;@20:;;\n" := by decide +kernel
  exact ⟨loaded, loaded', fromZero, same, (congrArg Outcome.output (same _)).symm.trans hline⟩

end Run

end ThresholdCheck
