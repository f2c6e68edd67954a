import ThresholdCheck.Proofs.Evaluator.Extension
import ThresholdCheck.Proofs.Range.Grammar
import ThresholdCheck.Proofs.Run.Ending

/-!
# More ranges, and no run ends milder

Two command lines with the same measurements are compared, of which the second one gives more ranges
behind those of the first (`AddsRanges`). Either the further ranges are refused, and the second run
ends as unknown, or its evaluator extends that of the first run.

* `Plugin.collectRanges_extends`, `Plugin.openEvaluator_extends`: the evaluator that is opened has
  more ranges, each at its slot;
* `evaluate_of_extends`: one measurement keeps the one evaluator an extension of the other;
* **`evaluated_extends`**: so do all of them, unless a range is refused;
* **`run_moreRanges`**: so the exit code is no smaller, and no record is milder.
-/

namespace ThresholdCheck

open CommandLine (Word Given)

/-! ## 1. Ranges that are refused -/

/-- A range is refused, or a list of them. -/
def Fault.OfRange (fault : Fault) : Prop := ∃ text cause, fault = .range text cause

theorem Range.ofRange_of_parseList {mode : Mode} {text : String} {fault : Fault}
    (h : parseList mode text = .error fault) : fault.OfRange := by
  unfold parseList at h
  split at h
  · cases h
    exact ⟨_, _, rfl⟩
  · refine mapM_eq_error (fun segment _ fault hfault => ?_) h
    unfold parseSegment at hfault
    split at hfault
    · cases hfault
      exact ⟨_, _, rfl⟩
    · obtain ⟨cause, hcause⟩ := parse_eq_error hfault
      exact ⟨_, cause, hcause⟩

namespace Plugin

variable {mode : Mode}

theorem ofRange_of_collectRanges {texts : List String} {fault : Fault}
    (h : collectRanges mode texts = .error fault) : fault.OfRange := by
  refine foldlM_eq_error (fun text _ s fault hfault => ?_) h
  unfold ThresholdSet.append at hfault
  cases hread : Range.parseList s.mode text with
  | error cause =>
    rw [hread] at hfault
    cases hfault
    exact Range.ofRange_of_parseList hread
  | ok more =>
    rw [hread] at hfault
    cases hfault

/-- An evaluator is not opened only if a range is refused. -/
theorem ofRange_of_openEvaluator {given : Given} {severities : List (Severity × Bool)}
    {e : Evaluator} {fault : Fault} (h : openEvaluator mode given severities e = .error fault) :
    fault.OfRange := by
  induction severities generalizing e with
  | nil => cases h
  | cons first rest ih =>
    rcases bind_eq_error h with hfirst | ⟨ranges, -, hrest⟩
    · exact ofRange_of_collectRanges hfirst
    · exact ih hrest

/-! ## 2. The evaluator that is opened -/

/-- Lists that are appended leave the ranges that there were in their places. -/
theorem collectRanges_extends {texts texts' : List String} (more : texts <+: texts')
    {s s' : ThresholdSet} (h : collectRanges mode texts = .ok s)
    (h' : collectRanges mode texts' = .ok s') : s.ExtendsTo s' := by
  obtain ⟨further, rfl⟩ := more
  unfold collectRanges at h h'
  rw [List.foldlM_append, h] at h'
  have hstart : s.ExtendsTo s := List.prefix_refl _
  refine foldlM_induction hstart (fun text _ t next ht happend => ?_) h'
  obtain ⟨ranges, -, rfl⟩ := map_eq_ok happend
  exact List.IsPrefix.trans ht (List.prefix_append _ _)

end Plugin

/-- The same measurements are given, and behind the ranges of each severity there may be more. -/
structure Check.AddsRanges (given given' : Given) : Prop where
  arguments : given'.arguments = given.arguments
  ranges : ∀ severity : Severity, given.valuesOf severity.name <+: given'.valuesOf severity.name

/-- **The evaluator that is opened has more ranges behind those that it had.** -/
theorem Plugin.openEvaluator_extends {p : Plugin} {mode : Mode} {given given' : Given}
    {e e' : Evaluator} (more : Check.AddsRanges given given')
    (h : openEvaluator mode given p.enabled Evaluator.empty = .ok e)
    (h' : openEvaluator mode given' p.enabled Evaluator.empty = .ok e') : e.ExtendsTo e' where
  thresholds severity := by
    rcases openEvaluator_threshold h severity with ⟨required, ranges, hmem, hranges, ht⟩ | ⟨hno, ht⟩
    · rcases openEvaluator_threshold h' severity with
        ⟨required', ranges', hmem', hranges', ht'⟩ | ⟨hno', -⟩
      · have hrequired : some required' = some required :=
          (mem_enabled_iff.1 hmem').symm.trans (mem_enabled_iff.1 hmem)
        rw [ht, ht']
        exact .some
          ⟨Option.some.inj hrequired, collectRanges_extends (more.ranges severity) hranges hranges'⟩
      · exact absurd (List.mem_map_of_mem hmem) hno'
    · rcases openEvaluator_threshold h' severity with ⟨required', ranges', hmem', -, -⟩ | ⟨-, ht'⟩
      · exact absurd (List.mem_map_of_mem hmem') hno
      · rw [ht, ht']
        cases severity with
        | warning => exact .none
        | critical => exact .none
  records := by
    rw [openEvaluator_records h, openEvaluator_records h']
    exact .nil

namespace Check

/-! ## 3. The measurements -/

variable {config : Config}

/-- **One measurement keeps the one evaluator an extension of the other.** -/
theorem evaluate_of_extends {e e' next : Evaluator} {text : String} (h : e.ExtendsTo e')
    (heval : evaluate config e text = .ok next) :
    ∃ next', evaluate config e' text = .ok next' ∧ next.ExtendsTo next' := by
  obtain ⟨a, r, hparse, hjudge, rfl⟩ := evaluate_eq_ok heval
  obtain ⟨r', hjudge', hworse⟩ := Evaluator.judge_of_extends h hjudge
  exact ⟨_, evaluate_of_judge hparse hjudge', h.store hworse⟩

theorem foldlM_evaluate_of_extends {e e' final : Evaluator} {texts : List String}
    (h : e.ExtendsTo e') (hfold : texts.foldlM (evaluate config) e = .ok final) :
    ∃ final', texts.foldlM (evaluate config) e' = .ok final' ∧ final.ExtendsTo final' :=
  foldlM_simulation h (fun _ _ _ _ _ hextends heval => evaluate_of_extends hextends heval) hfold

/-- **What is evaluated under some ranges is evaluated under more of them, and no milder, unless one
    of these is refused.** -/
theorem evaluated_extends {given given' : Given} {e : Evaluator} (more : AddsRanges given given')
    (h : evaluated config given = .ok e) :
    (∃ e', evaluated config given' = .ok e' ∧ e.ExtendsTo e') ∨
      ∃ fault, evaluated config given' = .error fault ∧ fault.OfRange := by
  obtain ⟨opened, hopened, hfold⟩ := bind_eq_ok h
  cases hopened' : Plugin.openEvaluator config.mode given' (plugin config).enabled
      Evaluator.empty with
  | error fault =>
    refine .inr ⟨fault, ?_, Plugin.ofRange_of_openEvaluator hopened'⟩
    unfold evaluated
    rw [hopened']
    rfl
  | ok opened' =>
    have hextends : opened.ExtendsTo opened' :=
      Plugin.openEvaluator_extends more hopened hopened'
    obtain ⟨e', hfold', he'⟩ := foldlM_evaluate_of_extends hextends hfold
    refine .inl ⟨e', ?_, he'⟩
    unfold evaluated
    rw [hopened', more.arguments]
    exact hfold'

theorem extendsTo_of_evaluated {given given' : Given} {e e' : Evaluator}
    (more : AddsRanges given given') (h : evaluated config given = .ok e)
    (h' : evaluated config given' = .ok e') : e.ExtendsTo e' := by
  rcases evaluated_extends more h with ⟨e'', he'', hextends⟩ | ⟨fault, hrefused, -⟩
  · rw [h'] at he''
    cases he''
    exact hextends
  · rw [h'] at hrefused
    cases hrefused

/-- Where the second check fails, its command line is refused, or one of its ranges is. -/
theorem refused_of_moreRanges {words : List Word} {given : Given} {e : Evaluator} {fault : Fault}
    (more : ∀ given', (plugin config).definition.parse words = .ok given' → AddsRanges given given')
    (h : evaluated config given = .ok e) (faulty : check config words = .error fault) :
    (∃ rejection, (plugin config).definition.parse words = .error rejection ∧
      fault = .commandLine rejection) ∨ fault.OfRange := by
  unfold check at faulty
  cases hparse : (plugin config).definition.parse words with
  | error rejection =>
    rw [hparse] at faulty
    cases faulty
    exact .inl ⟨rejection, rfl, rfl⟩
  | ok given' =>
    rw [hparse] at faulty
    have hverdict : verdict config given' = .error fault := faulty
    rw [verdict_eq_report] at hverdict
    rcases evaluated_extends (more given' hparse) h with ⟨e', he', -⟩ | ⟨cause, hcause, hrange⟩
    · rw [he'] at hverdict
      cases hverdict
    · rw [hcause] at hverdict
      cases hverdict
      exact .inr hrange

end Check

/-! ## 4. The runs -/

namespace Run

variable {host : Host} {source : ConfigSource} {config : Config} {words words' : List Word}
  {given : Given} {report : Report}

theorem exits_of_report (accepting : host.output = .accepting)
    (reported : Reports source words report) :
    (run host source words).exits = [report.exitCode] := by
  rw [run_of_reports reported]
  unfold tell deliver
  rw [accepting]

theorem exits_of_faulty (accepting : host.output = .accepting) (faulty : Faulty source words) :
    (run host source words).exits = [3] := by
  obtain ⟨t, hends, hrun⟩ := exists_telling source words
  rw [hrun, t.on_of_accepting accepting]
  exact congrArg (fun code => [code]) (hends.exitCode_eq_three_iff.2 faulty)

/-- **More ranges never make a run milder.** A check reports, and a second command line gives the
    same measurements and more ranges behind those of the first, or is refused. Then the exit code
    of the second run is no smaller. Either it fails, for its command line or one of its ranges is
    refused, or each of its records is in the same state as in the first run or in a worse one. -/
theorem run_moreRanges (accepting : host.output = .accepting)
    (loaded : Config.load source = .ok config)
    (accepted : (Check.plugin config).definition.parse words = .ok given)
    (reported : check config words = .ok report)
    (more : ∀ given', (Check.plugin config).definition.parse words' = .ok given' →
      Check.AddsRanges given given')
    (unasked : ∀ rejection, (Check.plugin config).definition.parse words' = .error rejection →
      rejection.isAnswer = false) :
    (run host source words).exits = [report.exitCode] ∧
    ∃ code, (run host source words').exits = [code] ∧ report.exitCode ≤ code ∧
      ((code = 3 ∧ ∃ fault, check config words' = .error fault ∧
          ((∃ rejection, fault = .commandLine rejection) ∨ fault.OfRange)) ∨
        ∃ given' report' e e', (Check.plugin config).definition.parse words' = .ok given' ∧
          check config words' = .ok report' ∧ code = report'.exitCode ∧
          Check.evaluated config given = .ok e ∧ report.status = Report.overall e.records ∧
          Check.evaluated config given' = .ok e' ∧ report'.status = Report.overall e'.records ∧
          List.Forall₂ Record.NoWorseThan e.records e'.records) := by
  refine ⟨exits_of_report accepting ⟨config, loaded, reported⟩, ?_⟩
  obtain ⟨g, e, hg, he, rfl⟩ := Check.check_eq_ok_iff.1 reported
  rw [accepted] at hg
  cases hg
  cases hcheck' : check config words' with
  | error fault =>
    have hrefused := Check.refused_of_moreRanges more he hcheck'
    have hfault : fault.isAnswer = false := by
      rcases hrefused with ⟨rejection, hparse, rfl⟩ | ⟨text, cause, rfl⟩
      · exact unasked rejection hparse
      · rfl
    have hexits := exits_of_faulty accepting (.inr ⟨config, fault, loaded, hcheck', hfault⟩)
    refine ⟨3, hexits, Status.exitCode_le_three _, .inl ⟨rfl, fault, rfl, ?_⟩⟩
    exact hrefused.imp_left fun ⟨rejection, _, hcause⟩ => ⟨rejection, hcause⟩
  | ok report' =>
    obtain ⟨given', e', accepted', he', rfl⟩ := Check.check_eq_ok_iff.1 hcheck'
    have hrecords := (Check.extendsTo_of_evaluated (more given' accepted') he he').records
    have hexits := exits_of_report accepting ⟨config, loaded, hcheck'⟩
    refine ⟨_, hexits, Report.overall_mono hrecords, ?_⟩
    exact .inr ⟨given', _, e, e', accepted', rfl, rfl, he, rfl, he', rfl, hrecords⟩

/-- Behind the range for warning comes one more that no slot asks for, and the first one for
    critical: the same measurement is critical then. -/
theorem run_moreRanges_critical :
    let host : Host := ⟨.accepting, .accepting⟩
    let words := ["nagrange", "-w", "10", "load=15"].map Word.ofString
    let words' := ["nagrange", "-w", "10", "-w", "@~:", "-c", "12", "load=15"].map Word.ofString
    ∃ report code, check .default words = .ok report ∧
      (run host .unset words).exits = [report.exitCode] ∧
      (run host .unset words').exits = [code] ∧ report.exitCode ≤ code ∧
      report.exitCode = 1 ∧ code = 2 := by
  intro host words words'
  let given : Given := ⟨0, [("warning", "10")], ["load=15"]⟩
  let given' : Given :=
    ⟨0, [("warning", "10"), ("warning", "@~:"), ("critical", "12")], ["load=15"]⟩
  have accepting : host.output = .accepting := rfl
  have loaded : Config.load .unset = .ok .default := rfl
  have accepted : (Check.plugin .default).definition.parse words = .ok given := rfl
  have accepted' : (Check.plugin .default).definition.parse words' = .ok given' := rfl
  have reported : check .default words =
      .ok ⟨.warning, "Status Warning|load=15;10;;;"⟩ := eq_ok_of_toOption (by decide +kernel)
  have adds : Check.AddsRanges given given' := by
    refine ⟨rfl, fun severity => ?_⟩
    cases severity with
    | warning => exact ⟨["@~:"], by decide⟩
    | critical => exact ⟨["12"], by decide⟩
  have more : ∀ g, (Check.plugin .default).definition.parse words' = .ok g →
      Check.AddsRanges given g := by
    intro g hg
    rw [accepted'] at hg
    cases hg
    exact adds
  have unasked : ∀ rejection, (Check.plugin .default).definition.parse words' = .error rejection →
      rejection.isAnswer = false := by
    intro rejection hrejection
    rw [accepted'] at hrejection
    cases hrejection
  obtain ⟨hexits, code, hexits', hle, -⟩ :=
    run_moreRanges accepting loaded accepted reported more unasked
  have hcode : (run host .unset words').exits = [2] := by decide +kernel
  have hcritical : code = 2 := List.singleton_inj.1 (hexits'.symm.trans hcode)
  exact ⟨_, code, reported, hexits, hexits', hle, rfl, hcritical⟩

end Run

end ThresholdCheck
