import ThresholdCheck.Proofs.Argument
import ThresholdCheck.Proofs.Check.Reference
import ThresholdCheck.Proofs.Config.Consistency
import ThresholdCheck.Proofs.Evaluator.Judging
import ThresholdCheck.Proofs.Range.Segments
import ThresholdCheck.Proofs.Report

/-!
# A check answers what it is to answer

The check goes through the options, the ranges and the measurements with an evaluator that it
changes; `Check.reference` says the answer without one.

* `collectRanges_eq`: lists of ranges are read segment by segment;
* `evaluate_of_fault`, `evaluate_of_none`: one measurement;
* `foldlM_evaluate`: all measurements, by the records that reflect them;
* `verdict_eq_reference`, **`check_eq_reference`**: the answer to a command line.
-/

namespace ThresholdCheck.Check

open CommandLine (Word Given)

/-! ## 1. Ranges -/

/-- A list of ranges is read segment by segment. -/
theorem parseList_eq (mode : Mode) (text : String) :
    Range.parseList mode text = (Range.segments text).mapM (rangeIn mode text) := by
  unfold Range.parseList
  by_cases h : Text.isBlankText text.toList = true
  · -- a blank list is its own only segment, and is refused as a range would be
    rw [if_pos h, Range.segments_of_blank h, List.mapM_cons]
    unfold rangeIn
    rw [if_neg (by simp), Range.parse_of_blank h]
    rfl
  · rw [if_neg h]
    congr 1
    funext segment
    unfold Range.parseSegment rangeIn
    by_cases hblank : Text.isBlankText segment.toList = true
    · have hne : segment ≠ text := fun heq => h (heq ▸ hblank)
      rw [if_pos hblank, if_pos ⟨hblank, hne⟩]
    · rw [if_neg hblank, if_neg fun hboth => hblank hboth.1]

theorem rangesOf_cons (mode : Mode) (text : String) (texts : List String) :
    rangesOf mode (text :: texts) = do
      let first ← Range.parseList mode text
      let rest ← rangesOf mode texts
      return first ++ rest := by
  have hsegments : segmentsOf (text :: texts) =
      (Range.segments text).map (fun segment => (text, segment)) ++ segmentsOf texts :=
    List.flatMap_cons
  unfold rangesOf
  rw [hsegments, List.mapM_append, List.mapM_map, parseList_eq]
  rfl

theorem foldlM_append (s : ThresholdSet) (texts : List String) :
    texts.foldlM ThresholdSet.append s =
      (rangesOf s.mode texts).map fun rs => { s with ranges := s.ranges ++ rs } := by
  induction texts generalizing s with
  | nil =>
    show Except.ok s = .ok { s with ranges := s.ranges ++ [] }
    rw [List.append_nil]
  | cons text texts ih =>
    rw [List.foldlM_cons, rangesOf_cons]
    unfold ThresholdSet.append
    cases Range.parseList s.mode text with
    | error fault => rfl
    | ok first =>
      show texts.foldlM ThresholdSet.append { s with ranges := s.ranges ++ first } = _
      rw [ih]
      dsimp only
      cases rangesOf s.mode texts with
      | error fault => rfl
      | ok rest =>
        show Except.ok { s with ranges := s.ranges ++ first ++ rest } =
          .ok { s with ranges := s.ranges ++ (first ++ rest) }
        rw [List.append_assoc]

/-- **The ranges of a severity are those of all segments of its lists.** -/
theorem collectRanges_eq (mode : Mode) (texts : List String) :
    Plugin.collectRanges mode texts = (rangesOf mode texts).map fun rs => ⟨mode, rs⟩ :=
  foldlM_append (ThresholdSet.empty mode) texts

/-! ## 2. One measurement -/

theorem argumentsOf_cons {text : String} {a : Argument} (h : Argument.parse text = .ok a)
    (texts : List String) : argumentsOf (text :: texts) = a :: argumentsOf texts := by
  unfold argumentsOf
  rw [List.filterMap_cons, h]
  rfl

namespace Setting

variable (s : Setting)

/-- The evaluator with the ranges of the setting in force. -/
def evaluator (rs : List Record) : Evaluator :=
  ⟨some ⟨⟨s.config.mode, s.warning⟩, s.config.warningRequired⟩,
    some ⟨⟨s.config.mode, s.critical⟩, s.config.criticalRequired⟩, rs⟩

variable {s} {text : String} {a : Argument}

theorem stateOf_record (a : Argument) :
    Evaluator.stateOf (s.record a).warning (s.record a).critical = s.state a := by
  unfold Evaluator.stateOf state record
  dsimp only
  rw [Option.isSome_map, Option.isSome_map]

/-- A measurement is judged to have its fault or its record, whatever the records so far. -/
theorem judge_measurement (rs : List Record) (h : Argument.parse text = .ok a)
    (hslot : (s.declared a).slot ≠ 0) :
    (s.evaluator rs).judge (a.measurement s.config) =
      match s.fault? text with
      | some fault => .error fault
      | none => .ok (s.record a) := by
  -- the measurement has the slot, the value and the unit of the declared argument
  obtain ⟨m, hm⟩ : ∃ m, m = a.measurement s.config := ⟨_, rfl⟩
  have hnumber : ¬m.value.isNaN = true := by
    rw [hm]
    exact Bool.eq_false_iff.1 (Argument.value_not_nan h)
  have hfirst : ¬m.slot = 0 := by
    rw [hm]
    exact hslot
  have hscale : Evaluator.readScale m.scale =
      if a.unit ≠ "" ∧ Scale.ofText? a.unit = none then .error (.unknownScale a.unit)
      else .ok (s.record a).scale := by
    rw [hm]
    exact Argument.readScale_eq a (s.declared a).scale
  have hwarning : Threshold.matched .warning m.slot m.value (s.evaluator rs).warning =
      if s.lacksRange .warning a then .error (.missingThreshold .warning (s.declared a).slot)
      else .ok (s.record a).warning := by
    rw [hm]
    exact Threshold.matched_some .warning a.value hslot
  have hcritical : Threshold.matched .critical m.slot m.value (s.evaluator rs).critical =
      if s.lacksRange .critical a then .error (.missingThreshold .critical (s.declared a).slot)
      else .ok (s.record a).critical := by
    rw [hm]
    exact Threshold.matched_some .critical a.value hslot
  rw [← hm]
  unfold Evaluator.judge
  rw [if_neg hfirst, if_neg hnumber, hscale, hwarning, hcritical]
  unfold fault?
  rw [h]
  dsimp only
  by_cases hunit : a.unit ≠ "" ∧ Scale.ofText? a.unit = none
  · rw [if_pos hunit, if_pos hunit]
    rfl
  · rw [if_neg hunit, if_neg hunit]
    by_cases hw : s.lacksRange .warning a
    · rw [if_pos hw, if_pos hw]
      rfl
    · rw [if_neg hw, if_neg hw]
      by_cases hc : s.lacksRange .critical a
      · rw [if_pos hc, if_pos hc]
        rfl
      · rw [if_neg hc, if_neg hc]
        show Except.ok (Record.mk m.name m.value m.min m.max (s.record a).scale m.slot
          (Evaluator.stateOf (s.record a).warning (s.record a).critical) _ _) = _
        rw [stateOf_record, hm]
        rfl

/-- A measurement with a fault ends in it. -/
theorem evaluate_of_fault (rs : List Record) (slots : ∀ a, (s.declared a).slot ≠ 0) {fault : Fault}
    (h : s.fault? text = some fault) :
    evaluate s.config (s.evaluator rs) text = .error fault := by
  unfold evaluate
  cases hparse : Argument.parse text with
  | error f =>
    unfold fault? at h
    rw [hparse] at h
    cases h
    rfl
  | ok a =>
    have hjudge := judge_measurement rs hparse (slots a)
    rw [h] at hjudge
    show ((s.evaluator rs).setValue _ >>= fun next => pure next.2) = _
    unfold Evaluator.setValue
    rw [hjudge]
    rfl

/-- A measurement without a fault leaves its record. -/
theorem evaluate_of_none (rs : List Record) (slots : ∀ a, (s.declared a).slot ≠ 0)
    (h : s.fault? text = none) :
    ∃ a, Argument.parse text = .ok a ∧
      evaluate s.config (s.evaluator rs) text = .ok (s.evaluator (store (s.record a) rs)) := by
  cases hparse : Argument.parse text with
  | error f =>
    unfold fault? at h
    rw [hparse] at h
    cases h
  | ok a =>
    refine ⟨a, rfl, ?_⟩
    have hjudge := judge_measurement rs hparse (slots a)
    rw [h] at hjudge
    unfold evaluate
    rw [hparse]
    show ((s.evaluator rs).setValue _ >>= fun next => pure next.2) = _
    unfold Evaluator.setValue
    rw [hjudge]
    rfl

/-! ## 3. All measurements -/

/-- Where a measurement has a fault, the first fault ends the check. -/
theorem foldlM_evaluate_of_fault (slots : ∀ a, (s.declared a).slot ≠ 0) {texts : List String}
    (rs : List Record) {fault : Fault} (h : texts.findSome? s.fault? = some fault) :
    texts.foldlM (evaluate s.config) (s.evaluator rs) = .error fault := by
  induction texts generalizing rs with
  | nil => cases h
  | cons text texts ih =>
    rw [List.foldlM_cons]
    rw [List.findSome?_cons] at h
    cases hfirst : s.fault? text with
    | some f =>
      rw [hfirst] at h
      cases h
      rw [evaluate_of_fault rs slots hfirst]
      rfl
    | none =>
      rw [hfirst] at h
      obtain ⟨a, -, heval⟩ := evaluate_of_none rs slots hfirst
      rw [heval]
      exact ih _ h

/-- Where none has, the records reflect the measurements. -/
theorem foldlM_evaluate_of_none (slots : ∀ a, (s.declared a).slot ≠ 0) {texts : List String}
    {writes : List Argument} {rs : List Record}
    (hrs : Reflects Argument.name (fun a r => r = s.record a) writes rs)
    (h : texts.findSome? s.fault? = none) :
    ∃ rs', texts.foldlM (evaluate s.config) (s.evaluator rs) = .ok (s.evaluator rs') ∧
      Reflects Argument.name (fun a r => r = s.record a) (writes ++ argumentsOf texts) rs' := by
  induction texts generalizing writes rs with
  | nil =>
    refine ⟨rs, rfl, ?_⟩
    rw [argumentsOf, List.filterMap_nil, List.append_nil]
    exact hrs
  | cons text texts ih =>
    rw [List.findSome?_cons] at h
    cases hfirst : s.fault? text with
    | some f =>
      rw [hfirst] at h
      cases h
    | none =>
      rw [hfirst] at h
      obtain ⟨a, hparse, heval⟩ := evaluate_of_none rs slots hfirst
      obtain ⟨rs', hfold, hrs'⟩ := ih (hrs.store (w := a) (r := s.record a) rfl rfl) h
      refine ⟨rs', ?_, ?_⟩
      · rw [List.foldlM_cons, heval]
        exact hfold
      · rw [argumentsOf_cons hparse, List.append_cons]
        exact hrs'

end Setting

/-! ## 4. The report -/

theorem state_ne_unknown (s : Setting) (a : Argument) : s.state a ≠ .unknown := by
  rw [← Setting.stateOf_record]
  exact Evaluator.stateOf_ne_unknown

theorem overall_eq {rs : List Record} (known : ∀ r ∈ rs, r.state ≠ .unknown) :
    Report.overall rs = worstState rs :=
  Report.overall_of_known known

theorem report_eq (s : Setting) (message : Option String) {rs : List Record}
    (known : ∀ r ∈ rs, r.state ≠ .unknown) :
    (s.evaluator rs).report (message.map Report.sanitize) =
      ⟨worstState rs, statusLine (worstState rs) message rs⟩ := by
  show Report.ofRecords rs _ = _
  unfold Report.ofRecords statusLine
  dsimp only
  rw [overall_eq known, Report.headline_sanitize, Report.headline_eq_append, Report.performance_eq]

/-! ## 5. The check -/

theorem openEvaluator_eq (config : Config) (given : Given) :
    Plugin.openEvaluator config.mode given (plugin config).enabled Evaluator.empty = do
      let warning ← rangesOf config.mode (given.valuesOf "warning")
      let critical ← rangesOf config.mode (given.valuesOf "critical")
      return (⟨config, warning, critical⟩ : Setting).evaluator [] := by
  show (do
    let warning ← Plugin.collectRanges config.mode (given.valuesOf "warning")
    let critical ← Plugin.collectRanges config.mode (given.valuesOf "critical")
    Except.ok ((Evaluator.empty.enable .warning warning config.warningRequired).enable
      .critical critical config.criticalRequired)) = _
  rw [collectRanges_eq, collectRanges_eq]
  cases rangesOf config.mode (given.valuesOf "warning") with
  | error fault => rfl
  | ok warning =>
    cases rangesOf config.mode (given.valuesOf "critical") with
    | error fault => rfl
    | ok critical => rfl

/-- The message is the value that was given first. -/
theorem lookup_message (config : Config) (given : Given) :
    ((plugin config).options.filterMap fun o =>
      (given.valuesOf o.name).head?.map fun v => (o.name, v)).lookup messageOption.name =
      (given.valuesOf "message").head? := by
  show ([messageOption].filterMap _).lookup _ = _
  cases h : (given.valuesOf "message").head? with
  | none =>
    have hnone : (given.valuesOf messageOption.name).head? = none := h
    rw [List.filterMap_cons_none (by rw [hnone, Option.map_none])]
    rfl
  | some message =>
    have hsome : (given.valuesOf messageOption.name).head? = some message := h
    rw [List.filterMap_cons_some (by rw [hsome, Option.map_some])]
    rfl

/-- The answer to the measurements, with the ranges of the setting in force. -/
theorem answer_eq {s : Setting} (slots : ∀ a, (s.declared a).slot ≠ 0) (message : Option String)
    (texts : List String) :
    (do
      let e ← texts.foldlM (evaluate s.config) (s.evaluator [])
      return e.report (message.map Report.sanitize)) =
      match texts.findSome? s.fault? with
      | some fault => .error fault
      | none =>
        let rs := s.records (argumentsOf texts)
        .ok ⟨worstState rs, statusLine (worstState rs) message rs⟩ := by
  cases hfault : texts.findSome? s.fault? with
  | some fault =>
    rw [Setting.foldlM_evaluate_of_fault slots [] hfault]
    rfl
  | none =>
    obtain ⟨rs, hfold, hrs⟩ := Setting.foldlM_evaluate_of_none slots (reflects_nil _ _) hfault
    have hrecords : rs = s.records (argumentsOf texts) := hrs.eq_filterMap fun a r hr => hr
    have hknown : ∀ r ∈ rs, r.state ≠ .unknown := by
      intro r hr
      obtain ⟨a, -, rfl⟩ := hrs.latest r hr
      exact state_ne_unknown s a
    rw [hfold]
    show Except.ok ((s.evaluator rs).report _) = _
    rw [report_eq s message hknown, hrecords]

/-- **What a command line gave is answered as it is to be.** -/
theorem verdict_eq_reference {config : Config}
    (slots : ∀ name, ((config.metric? name).getD (Declaration.plain name)).slot ≠ 0)
    (given : Given) :
    verdict config given =
      reference config (given.valuesOf "warning") (given.valuesOf "critical")
        (given.valuesOf "message").head? given.arguments := by
  unfold verdict reference Plugin.openSession
  rw [show (plugin config).mode = config.mode from rfl, openEvaluator_eq]
  cases rangesOf config.mode (given.valuesOf "warning") with
  | error fault => rfl
  | ok warning =>
    cases rangesOf config.mode (given.valuesOf "critical") with
    | error fault => rfl
    | ok critical =>
      show (do
        let e ← given.arguments.foldlM (evaluate config)
          ((⟨config, warning, critical⟩ : Setting).evaluator [])
        return e.report ((List.lookup _ _).map Report.sanitize)) = _
      rw [lookup_message]
      exact answer_eq (s := ⟨config, warning, critical⟩) (fun a => slots a.name) _ _

/-- **A check under a configuration that was loaded answers an accepted command line as it is to
    be.** -/
theorem check_eq_reference {source : ConfigSource} {config : Config} {words : List Word}
    {given : Given} (loaded : Config.load source = .ok config)
    (accepted : (plugin config).definition.parse words = .ok given) :
    check config words =
      reference config (given.valuesOf "warning") (given.valuesOf "critical")
        (given.valuesOf "message").head? given.arguments := by
  unfold check
  rw [accepted]
  exact verdict_eq_reference (Config.slot_ne_zero loaded) given

/-- A repeated name that is declared for the second slot, and several segments: of the two
    measurements of `disk` the first violates a range for critical, and the last one counts. -/
theorem check_eq_reference_warning :
    let source : ConfigSource := .file "nagrange.toml"
      (.ok "warning_required = true\n[[metrics]]\nname = \"disk\"\nscale = \"MB\"\nslot = 2\n")
    let config : Config := ⟨.zeroFloor, true, false, [⟨"disk", some .megabytes, none, none, 2⟩]⟩
    let words := ["nagrange", "-w", "10, 20", "disk=6", "load=15", "--warning=30", "-c", "40,@5:8",
      "-m", "a|b", "disk=25"].map Word.ofString
    let given : Given :=
      ⟨0, [("warning", "10, 20"), ("warning", "30"), ("critical", "40,@5:8"), ("message", "a|b")],
        ["disk=6", "load=15", "disk=25"]⟩
    Config.load source = .ok config ∧ (plugin config).definition.parse words = .ok given ∧
    check config words =
      reference config (given.valuesOf "warning") (given.valuesOf "critical")
        (given.valuesOf "message").head? given.arguments ∧
    check config words =
      .ok ⟨.warning, "Status Warning, a b|disk=25MB;20;;; load=15;10;;;"⟩ := by
  intro source config words given
  have loaded : Config.load source = .ok config := by decide +kernel
  have accepted : (plugin config).definition.parse words = .ok given := rfl
  have answer := check_eq_reference loaded accepted
  refine ⟨loaded, accepted, answer, ?_⟩
  rw [answer]
  exact eq_ok_of_toOption (by decide +kernel)

end ThresholdCheck.Check
