import ThresholdCheck.Proofs.Check.Evaluation
import ThresholdCheck.Proofs.CommandLine.Spelling
import ThresholdCheck.Proofs.Report.Line

/-!
# The order of measurements does not matter

A measurement is judged by the ranges that were opened, and what was judged before has no part in
it. So the records of a check are the row of its verdicts, as long as no name comes twice, and a
check of the same measurements in another order makes the same records in that order.

* `foldlM_evaluate`: measurements are judged one by one (`judged`), and their records are stored;
* **`evaluated_eq_ok_iff`**: so the evaluator has the records of a row, if the names are distinct;
* `exists_accepted`: any ranges, message and measurements can be given on a command line;
* **`evaluated_reordered`**: the records of measurements in another order are those in that order;
* **`check_reordered`**: so status, exit code and what stands before the performance data are the
  same.
-/

namespace ThresholdCheck

open CommandLine (Word Given Definition)

/-! ## 1. Names -/

/-- The name in a text with a `=`. -/
def Argument.nameIn? (text : String) : Option String :=
  (Text.cut '=' text.toList).map fun parts => String.ofList (Text.trim parts.1)

theorem Argument.nameIn?_of_parse {text : String} {a : Argument} (h : parse text = .ok a) :
    nameIn? text = some a.name := by
  obtain ⟨name, value, hcut, -, hname, -⟩ := parse_eq_ok h
  unfold nameIn?
  rw [hcut, hname]
  rfl

namespace Check

variable {config : Config} {e : Evaluator}

/-! ## 2. Measurements one by one -/

/-- The name of a record is the one in its argument. -/
theorem nameIn?_of_judged {text : String} {r : Record} (h : judged config e text = .ok r) :
    Argument.nameIn? text = some r.name := by
  obtain ⟨a, hparse, hjudge⟩ := bind_eq_ok h
  have hname : r.name = a.name := Evaluator.judge_name hjudge
  rw [Argument.nameIn?_of_parse hparse, hname]

theorem map_name_of_judged {texts : List String} {rs : List Record}
    (h : texts.mapM (judged config e) = .ok rs) :
    rs.map Record.name = texts.filterMap Argument.nameIn? := by
  have hrow := mapM_eq_ok_iff.1 h
  clear h
  induction hrow with
  | nil => rfl
  | cons hr _ ih => rw [List.map_cons, ih, List.filterMap_cons_some (nameIn?_of_judged hr)]

/-- **Measurements are judged one by one, and then their records are stored.** -/
theorem foldlM_evaluate (config : Config) (e : Evaluator) (texts : List String) :
    texts.foldlM (evaluate config) e =
      (texts.mapM (judged config e)).map fun rs =>
        { e with records := rs.foldl (fun stored r => store r stored) e.records } := by
  induction texts generalizing e with
  | nil => rfl
  | cons text texts ih =>
    rw [List.foldlM_cons, List.mapM_cons, evaluate_eq]
    cases judged config e text with
    | error fault => rfl
    | ok r =>
      -- the records have no part in a verdict, so the rest is judged as it was before
      have hrest := ih { e with records := store r e.records }
      show texts.foldlM (evaluate config) { e with records := store r e.records } = _
      rw [hrest]
      show (texts.mapM (judged config e)).map _ = ((texts.mapM (judged config e) >>= _).map _)
      cases texts.mapM (judged config e) with
      | error fault => rfl
      | ok rs => rfl

/-- **With distinct names, the records of a check are the row of its verdicts.** -/
theorem evaluated_eq_ok_iff {given : Given}
    (distinct : (given.arguments.filterMap Argument.nameIn?).Nodup) :
    evaluated config given = .ok e ↔
      ∃ opened rs,
        Plugin.openEvaluator config.mode given (plugin config).enabled .empty = .ok opened ∧
        given.arguments.mapM (judged config opened) = .ok rs ∧
        e = { opened with records := rs } := by
  have hstored : ∀ opened rs,
      Plugin.openEvaluator config.mode given (plugin config).enabled .empty = .ok opened →
      given.arguments.mapM (judged config opened) = .ok rs →
        rs.foldl (fun stored r => store r stored) opened.records = rs := by
    intro opened rs hopened hrow
    have hnone : opened.records = [] := Plugin.openEvaluator_records hopened
    have hnames : (([] ++ rs).map Record.name).Nodup := by
      rw [List.nil_append, map_name_of_judged hrow]
      exact distinct
    rw [hnone]
    exact foldl_store_of_nodup hnames
  constructor
  · intro h
    obtain ⟨opened, hopened, h⟩ := bind_eq_ok h
    rw [foldlM_evaluate] at h
    obtain ⟨rs, hrow, rfl⟩ := map_eq_ok h
    rw [hstored opened rs hopened hrow]
    exact ⟨opened, rs, hopened, hrow, rfl⟩
  · rintro ⟨opened, rs, hopened, hrow, rfl⟩
    unfold evaluated
    rw [hopened]
    show given.arguments.foldlM (evaluate config) opened = _
    rw [foldlM_evaluate, hrow]
    show Except.ok { opened with records := rs.foldl _ opened.records } = _
    rw [hstored opened rs hopened hrow]

/-! ## 3. Command lines -/

/-- The same ranges are given for each severity, and the same message. -/
structure SameOptions (given given' : Given) : Prop where
  ranges : ∀ severity : Severity, given'.valuesOf severity.name = given.valuesOf severity.name
  message : (given'.valuesOf "message").head? = (given.valuesOf "message").head?

namespace SameOptions

variable {given given' : Given}

theorem symm (same : SameOptions given given') : SameOptions given' given where
  ranges severity := (same.ranges severity).symm
  message := same.message.symm

theorem openEvaluator (same : SameOptions given given') :
    Plugin.openEvaluator config.mode given' (plugin config).enabled .empty =
      Plugin.openEvaluator config.mode given (plugin config).enabled .empty := by
  have hwarning : given'.valuesOf "warning" = given.valuesOf "warning" := same.ranges .warning
  have hcritical : given'.valuesOf "critical" = given.valuesOf "critical" := same.ranges .critical
  rw [openEvaluator_eq, openEvaluator_eq, hwarning, hcritical]

end SameOptions

/-- The values of an option, among those of one option. -/
theorem map_snd_filter (name other : String) (texts : List String) :
    ((texts.map fun text => (name, text)).filter fun v => v.1 == other).map Prod.snd =
      if name = other then texts else [] := by
  rw [List.filter_map, List.map_map]
  by_cases h : name = other
  · rw [if_pos h]
    simp [Function.comp_def, h]
  · rw [if_neg h]
    simp [Function.comp_def, h]

/-- **Any ranges, any message and any measurements can be given on a command line.** -/
theorem exists_accepted (config : Config) (warning critical : List String)
    (message : Option String) (measurements : List String) :
    ∃ words given, (plugin config).definition.parse words = .ok given ∧
      given.valuesOf "warning" = warning ∧ given.valuesOf "critical" = critical ∧
      (given.valuesOf "message").head? = message ∧ given.arguments = measurements := by
  let chosen := message.map fun text => ("message", text)
  let collected := (warning.map fun text => ("warning", text)) ++
    critical.map fun text => ("critical", text)
  let d := (plugin config).definition
  have chooses : ∀ v, chosen = some v → ∃ o choice, d.Knows .strict o ∧
      o.behaviour = .chosen choice ∧ o.name = v.1 ∧ choice.convert v.2 = .ok v.2 := by
    intro v hv
    obtain ⟨text, -, rfl⟩ := Option.map_eq_some_iff.1 hv
    exact ⟨messageOption.toOpt, messageOption.choice, ⟨by decide, rfl⟩, rfl, rfl, rfl⟩
  have collects : ∀ v ∈ collected, ∃ o, d.Knows .strict o ∧ o.behaviour = .collected ∧
      o.name = v.1 := by
    intro v hv
    rcases List.mem_append.1 hv with hv | hv
    · obtain ⟨text, -, rfl⟩ := List.mem_map.1 hv
      exact ⟨severityOption .warning, ⟨by decide, rfl⟩, rfl, rfl⟩
    · obtain ⟨text, -, rfl⟩ := List.mem_map.1 hv
      exact ⟨severityOption .critical, ⟨by decide, rfl⟩, rfl, rfl⟩
  have optional : ∀ o ∈ d.options, o.fallback? = none ∧ o.isRequired = false := by
    have hoptions : d.options =
        [verboseOption, severityOption .warning, severityOption .critical,
          messageOption.toOpt] := rfl
    rw [hoptions]
    simp only [List.forall_mem_cons]
    exact ⟨⟨rfl, rfl⟩, ⟨rfl, rfl⟩, ⟨rfl, rfl⟩, ⟨rfl, rfl⟩,
      fun o ho => absurd ho List.not_mem_nil⟩
  have hparse := Definition.parse_spelled "nagrange" chooses collects optional measurements
  have hchosen : chosen.toList = message.toList.map fun text => ("message", text) :=
    Option.toList_map
  have hvalues : ∀ name, (⟨0, chosen.toList ++ collected, measurements⟩ : Given).valuesOf name =
      (if "message" = name then message.toList else []) ++
        ((if "warning" = name then warning else []) ++
          if "critical" = name then critical else []) := by
    intro name
    show (List.filter _ (chosen.toList ++ collected)).map Prod.snd = _
    rw [hchosen, List.filter_append, List.map_append, List.filter_append, List.map_append,
      map_snd_filter, map_snd_filter, map_snd_filter]
  refine ⟨_, _, hparse, ?_, ?_, ?_, rfl⟩
  · rw [hvalues]
    simp
  · rw [hvalues]
    simp
  · rw [hvalues]
    cases message <;> simp

/-! ## 4. Another order -/

/-- **The same measurements in another order have the same records, in that order.** -/
theorem evaluated_reordered {given given' : Given} (same : SameOptions given given')
    (perm : given'.arguments.Perm given.arguments)
    (distinct : (given.arguments.filterMap Argument.nameIn?).Nodup)
    (h : evaluated config given = .ok e) :
    ∃ e', evaluated config given' = .ok e' ∧ e'.records.Perm e.records := by
  obtain ⟨opened, rs, hopened, hrow, rfl⟩ := (evaluated_eq_ok_iff distinct).1 h
  obtain ⟨rs', hrow', hperm⟩ := mapM_perm perm hrow
  have distinct' : (given'.arguments.filterMap Argument.nameIn?).Nodup :=
    (perm.filterMap _).nodup_iff.2 distinct
  refine ⟨{ opened with records := rs' }, (evaluated_eq_ok_iff distinct').2 ?_, hperm⟩
  exact ⟨opened, rs', same.openEvaluator.trans hopened, hrow', rfl⟩

/-- Where the one check reports, so does the other. -/
theorem exists_report_of_reordered {words words' : List Word} {given given' : Given}
    (accepted : (plugin config).definition.parse words = .ok given)
    (accepted' : (plugin config).definition.parse words' = .ok given')
    (same : SameOptions given given') (perm : given'.arguments.Perm given.arguments)
    (distinct : (given.arguments.filterMap Argument.nameIn?).Nodup)
    (h : ∃ report, check config words = .ok report) :
    ∃ report', check config words' = .ok report' := by
  obtain ⟨report, h⟩ := h
  obtain ⟨e, he, -⟩ := (check_eq_ok_iff_of_accepted accepted report).1 h
  obtain ⟨e', he', -⟩ := evaluated_reordered same perm distinct he
  exact ⟨_, (check_eq_ok_iff_of_accepted accepted' _).2 ⟨e', he', rfl⟩⟩

/-- Records in another order make a report that differs in its performance data alone. -/
theorem report_perm {e e' : Evaluator} (consistent : e.Consistent)
    (perm : e'.records.Perm e.records) (message : Option String) :
    (e'.report message).status = (e.report message).status ∧
      Report.leadOf (e'.report message).line = Report.leadOf (e.report message).line := by
  have known : ∀ r ∈ e.records, r.state ≠ .unknown :=
    fun r hr => (consistent.records r hr).state_ne_unknown
  have hstatus : Report.overall e'.records = Report.overall e.records :=
    Report.overall_perm perm known
  refine ⟨hstatus, ?_⟩
  show Report.leadOf (Report.ofRecords e'.records message).line =
    Report.leadOf (Report.ofRecords e.records message).line
  rw [Report.leadOf_line, Report.leadOf_line, hstatus]

/-- **The order of measurements does not matter.** Of a command line that is accepted, with distinct
    names before the `=` of its arguments, there is one with the same options and the arguments in
    any other order. For each of them, the one check reports exactly if the other does; and then
    both have the same status and exit code, the same text before the first `|`, and the same
    records up to their order. -/
theorem check_reordered {words : List Word} {given : Given} {measurements : List String}
    (accepted : (plugin config).definition.parse words = .ok given)
    (distinct : (given.arguments.filterMap Argument.nameIn?).Nodup)
    (perm : measurements.Perm given.arguments) :
    (∃ words' given', (plugin config).definition.parse words' = .ok given' ∧
      SameOptions given given' ∧ given'.arguments = measurements) ∧
    ∀ words' given', (plugin config).definition.parse words' = .ok given' →
      SameOptions given given' → given'.arguments = measurements →
      ((∃ report, check config words = .ok report) ↔ ∃ report', check config words' = .ok report') ∧
      ∀ report report', check config words = .ok report → check config words' = .ok report' →
        report'.status = report.status ∧ report'.exitCode = report.exitCode ∧
        Report.leadOf report'.line = Report.leadOf report.line ∧
        ∃ message e e', evaluated config given = .ok e ∧ report = e.report message ∧
          evaluated config given' = .ok e' ∧ report' = e'.report message ∧
          e'.records.Perm e.records := by
  constructor
  · obtain ⟨words', given', haccepted, hwarning, hcritical, hmessage, harguments⟩ :=
      exists_accepted config (given.valuesOf "warning") (given.valuesOf "critical")
        (given.valuesOf "message").head? measurements
    refine ⟨words', given', haccepted, ⟨fun severity => ?_, hmessage⟩, harguments⟩
    cases severity with
    | warning => exact hwarning
    | critical => exact hcritical
  · rintro words' given' accepted' same rfl
    have distinct' : (given'.arguments.filterMap Argument.nameIn?).Nodup :=
      (perm.filterMap _).nodup_iff.2 distinct
    refine ⟨⟨?_, ?_⟩, fun report report' h h' => ?_⟩
    · exact exists_report_of_reordered accepted accepted' same perm distinct
    · exact exists_report_of_reordered accepted' accepted same.symm perm.symm distinct'
    · obtain ⟨e, he, rfl⟩ := (check_eq_ok_iff_of_accepted accepted report).1 h
      obtain ⟨e', he', rfl⟩ := (check_eq_ok_iff_of_accepted accepted' report').1 h'
      obtain ⟨reordered, hreordered, hrecords⟩ := evaluated_reordered same perm distinct he
      rw [he'] at hreordered
      cases hreordered
      rw [same.message]
      obtain ⟨hstatus, hlead⟩ := report_perm (evaluated_consistent he) hrecords _
      exact ⟨hstatus, congrArg Status.exitCode hstatus, hlead, _, e, e', he, rfl, he', rfl, hrecords⟩

/-- Two measurements change places, and one of them is critical. -/
theorem check_reordered_swapped :
    let words := ["nagrange", "-w", "10,20", "-c", "30", "-m", "disk", "load=35", "free= 5s"].map
      Word.ofString
    let words' := ["nagrange", "-m", "disk", "free= 5s", "-c", "30", "-w", "10,20", "load=35"].map
      Word.ofString
    ∃ report report', check .default words = .ok report ∧ check .default words' = .ok report' ∧
      report.line = "Status Critical, disk|load=35;10;30;; free=5s;;;;" ∧
      report'.exitCode = report.exitCode ∧ report.exitCode = 2 ∧
      Report.leadOf report'.line = Report.leadOf report.line := by
  intro words words'
  let given : Given :=
    ⟨0, [("warning", "10,20"), ("critical", "30"), ("message", "disk")], ["load=35", "free= 5s"]⟩
  let given' : Given :=
    ⟨0, [("message", "disk"), ("critical", "30"), ("warning", "10,20")], ["free= 5s", "load=35"]⟩
  have accepted : (plugin .default).definition.parse words = .ok given := rfl
  have accepted' : (plugin .default).definition.parse words' = .ok given' := rfl
  have distinct : (given.arguments.filterMap Argument.nameIn?).Nodup := by decide +kernel
  have perm : given'.arguments.Perm given.arguments := by decide
  have same : SameOptions given given' := by
    refine ⟨fun severity => ?_, rfl⟩
    cases severity <;> rfl
  have reported : check .default words =
      .ok ⟨.critical, "Status Critical, disk|load=35;10;30;; free=5s;;;;"⟩ :=
    eq_ok_of_toOption (by decide +kernel)
  obtain ⟨-, hreordered⟩ := check_reordered accepted distinct perm
  obtain ⟨hiff, hreports⟩ := hreordered words' given' accepted' same rfl
  obtain ⟨report', reported'⟩ := hiff.1 ⟨_, reported⟩
  obtain ⟨-, hcode, hlead, -⟩ := hreports _ report' reported reported'
  exact ⟨_, report', reported, reported', rfl, hcode, rfl, hlead⟩

end Check

end ThresholdCheck
