import ThresholdCheck.Proofs.Check.Verdict
import ThresholdCheck.Proofs.Plugin.Opening

/-!
# The evaluator that a check reports

A check opens an evaluator, and each argument changes it. `evaluated` is the evaluator after the
last argument.

* `verdict_eq_report`: its report, with the message that was given, is the verdict, and
  `check_eq_ok_iff` says when a check comes to one;
* `evaluate_eq`: one argument is judged, whatever the records so far (`judged`), and its record is
  stored;
* **`evaluated_consistent`**: the evaluator is consistent;
* **`evaluated_names`**: its records are those of the names that were given, in the order in which
  they came up first.
-/

namespace ThresholdCheck.Check

open CommandLine (Word Given)

/-! ## 1. From the evaluator to the verdict -/

/-- The evaluator after all arguments of a command line. -/
def evaluated (config : Config) (given : Given) : Except Fault Evaluator := do
  let e ← Plugin.openEvaluator config.mode given (plugin config).enabled Evaluator.empty
  given.arguments.foldlM (evaluate config) e

/-- **The verdict is the report of the evaluator, with the message that was given first.** -/
theorem verdict_eq_report (config : Config) (given : Given) :
    verdict config given = (evaluated config given).map fun e =>
      e.report ((given.valuesOf "message").head?.map Report.sanitize) := by
  unfold verdict evaluated Plugin.openSession
  rw [show (plugin config).mode = config.mode from rfl]
  cases Plugin.openEvaluator config.mode given (plugin config).enabled Evaluator.empty with
  | error fault => rfl
  | ok opened =>
    show (do
      let e ← given.arguments.foldlM (evaluate config) opened
      return e.report ((List.lookup _ _).map Report.sanitize)) =
        (given.arguments.foldlM (evaluate config) opened).map _
    rw [lookup_message]
    rfl

/-- A check reports exactly if it takes the command line and evaluates all its arguments. -/
theorem check_eq_ok_iff {config : Config} {words : List Word} {report : Report} :
    check config words = .ok report ↔
      ∃ given e, (plugin config).definition.parse words = .ok given ∧
        evaluated config given = .ok e ∧
        report = e.report ((given.valuesOf "message").head?.map Report.sanitize) := by
  unfold check
  constructor
  · intro h
    obtain ⟨given, hgiven, h⟩ := bind_eq_ok h
    rw [verdict_eq_report] at h
    obtain ⟨e, he, hreport⟩ := map_eq_ok h
    exact ⟨given, e, mapError_eq_ok hgiven, he, hreport.symm⟩
  · intro h
    obtain ⟨given, e, hgiven, he, rfl⟩ := h
    rw [hgiven]
    show verdict config given = _
    rw [verdict_eq_report, he]
    rfl

/-- An accepted command line is reported on by the evaluator after all its arguments. -/
theorem check_eq_ok_iff_of_accepted {config : Config} {words : List Word} {given : Given}
    (accepted : (plugin config).definition.parse words = .ok given) (report : Report) :
    check config words = .ok report ↔
      ∃ e, evaluated config given = .ok e ∧
        report = e.report ((given.valuesOf "message").head?.map Report.sanitize) := by
  rw [check_eq_ok_iff]
  constructor
  · rintro ⟨given', e, accepted', he, hreport⟩
    rw [accepted] at accepted'
    cases accepted'
    exact ⟨e, he, hreport⟩
  · rintro ⟨e, he, hreport⟩
    exact ⟨given, e, accepted, he, hreport⟩

/-! ## 2. One argument -/

/-- The record of the measurement that an argument stands for. -/
def judged (config : Config) (e : Evaluator) (text : String) : Except Fault Record := do
  let a ← Argument.parse text
  e.judge (a.measurement config)

theorem evaluate_eq (config : Config) (e : Evaluator) (text : String) :
    evaluate config e text =
      (judged config e text).map fun r => { e with records := store r e.records } := by
  unfold evaluate judged Evaluator.setValue
  cases Argument.parse text with
  | error fault => rfl
  | ok a =>
    show ((e.judge (a.measurement config)).map _ >>= _) = (e.judge (a.measurement config)).map _
    cases e.judge (a.measurement config) with
    | error fault => rfl
    | ok r => rfl

variable {config : Config} {given : Given} {e e' : Evaluator}

/-- An argument that is evaluated is judged, and its record is stored. -/
theorem evaluate_eq_ok {text : String} (h : evaluate config e text = .ok e') :
    ∃ a r, Argument.parse text = .ok a ∧ e.judge (a.measurement config) = .ok r ∧
      e' = { e with records := store r e.records } := by
  rw [evaluate_eq] at h
  obtain ⟨r, hjudged, rfl⟩ := map_eq_ok h
  obtain ⟨a, hparse, hjudge⟩ := bind_eq_ok hjudged
  exact ⟨a, r, hparse, hjudge, rfl⟩

/-- An argument that is judged is evaluated. -/
theorem evaluate_of_judge {text : String} {a : Argument} {r : Record}
    (hparse : Argument.parse text = .ok a) (hjudge : e.judge (a.measurement config) = .ok r) :
    evaluate config e text = .ok { e with records := store r e.records } := by
  have hjudged : judged config e text = .ok r := by
    unfold judged
    rw [hparse]
    exact hjudge
  rw [evaluate_eq, hjudged]
  rfl

/-! ## 3. All arguments -/

theorem foldlM_evaluate_consistent {texts : List String} (h : e.Consistent)
    (hfold : texts.foldlM (evaluate config) e = .ok e') : e'.Consistent := by
  refine foldlM_induction h (fun text _ e next he hnext => ?_) hfold
  obtain ⟨a, r, -, hjudge, rfl⟩ := evaluate_eq_ok hnext
  exact he.store (Evaluator.judge_consistent he.readable hjudge)

/-- The names that are given come after those that were given before. -/
theorem foldlM_evaluate_names {texts : List String} {names : List String}
    (hnames : e.records.map Record.name = names.eraseDups)
    (hfold : texts.foldlM (evaluate config) e = .ok e') :
    e'.records.map Record.name =
      (names ++ (argumentsOf texts).map Argument.name).eraseDups := by
  induction texts generalizing e names with
  | nil =>
    cases hfold
    rw [argumentsOf, List.filterMap_nil, List.map_nil, List.append_nil]
    exact hnames
  | cons text texts ih =>
    rw [List.foldlM_cons] at hfold
    obtain ⟨next, hnext, hrest⟩ := bind_eq_ok hfold
    obtain ⟨a, r, hparse, hjudge, rfl⟩ := evaluate_eq_ok hnext
    have hname : r.name = a.name := Evaluator.judge_name hjudge
    have hstored : (store r e.records).map Record.name = (names ++ [a.name]).eraseDups := by
      rw [map_name_store, hnames, hname, eraseDups_concat]
      simp only [List.mem_eraseDups]
    rw [ih hstored hrest, argumentsOf_cons hparse, List.map_cons, List.append_assoc,
      List.singleton_append]

/-- **The evaluator that a check reports is consistent.** -/
theorem evaluated_consistent (h : evaluated config given = .ok e) : e.Consistent := by
  obtain ⟨opened, hopened, hfold⟩ := bind_eq_ok h
  exact foldlM_evaluate_consistent (Plugin.opened_consistent hopened) hfold

theorem evaluated_legible (h : evaluated config given = .ok e) : ∀ r ∈ e.records, r.Legible :=
  fun r hr => ((evaluated_consistent h).records r hr).legible

/-- **The records are those of the names that were given, in the order in which they came up
    first.** -/
theorem evaluated_names (h : evaluated config given = .ok e) :
    e.records.map Record.name = ((argumentsOf given.arguments).map Argument.name).eraseDups := by
  obtain ⟨opened, hopened, hfold⟩ := bind_eq_ok h
  have hrecords : opened.records = [] := Plugin.openEvaluator_records hopened
  have hnames : opened.records.map Record.name = ([] : List String).eraseDups := by
    rw [hrecords]
    rfl
  exact foldlM_evaluate_names hnames hfold

/-- The names of the records are those of the arguments. -/
theorem exists_record_iff (h : evaluated config given = .ok e) (p : String → Prop) :
    (∃ r ∈ e.records, p r.name) ↔ ∃ a ∈ argumentsOf given.arguments, p a.name := by
  have hnames : ∀ n, n ∈ e.records.map Record.name ↔
      n ∈ (argumentsOf given.arguments).map Argument.name := by
    intro n
    rw [evaluated_names h, List.mem_eraseDups]
  constructor
  · intro hr
    obtain ⟨r, hr, hp⟩ := hr
    obtain ⟨a, ha, hname⟩ := List.mem_map.1 ((hnames r.name).1 (List.mem_map_of_mem hr))
    exact ⟨a, ha, hname ▸ hp⟩
  · intro ha
    obtain ⟨a, ha, hp⟩ := ha
    obtain ⟨r, hr, hname⟩ := List.mem_map.1 ((hnames a.name).2 (List.mem_map_of_mem ha))
    exact ⟨r, hr, hname ▸ hp⟩

theorem forall_record_iff (h : evaluated config given = .ok e) (p : String → Prop) :
    (∀ r ∈ e.records, p r.name) ↔ ∀ a ∈ argumentsOf given.arguments, p a.name := by
  have hexists := exists_record_iff h fun n => ¬p n
  simpa only [not_exists, not_and, not_not] using not_congr hexists

/-- Where an argument is given there is a record. -/
theorem records_ne_nil (h : evaluated config given = .ok e) (hgiven : given.arguments ≠ []) :
    e.records ≠ [] := by
  have hnames := evaluated_names h
  obtain ⟨opened, -, hfold⟩ := bind_eq_ok h
  cases hargs : given.arguments with
  | nil => exact absurd hargs hgiven
  | cons text texts =>
    rw [hargs, List.foldlM_cons] at hfold
    obtain ⟨next, hnext, -⟩ := bind_eq_ok hfold
    obtain ⟨a, r, hparse, -, -⟩ := evaluate_eq_ok hnext
    rw [hargs, argumentsOf_cons hparse, List.map_cons, List.eraseDups_cons] at hnames
    intro hnil
    rw [hnil] at hnames
    cases hnames

end ThresholdCheck.Check
