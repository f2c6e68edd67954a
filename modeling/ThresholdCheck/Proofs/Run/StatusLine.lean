import ThresholdCheck.Proofs.Check.Evaluation
import ThresholdCheck.Proofs.Report.Line
import ThresholdCheck.Run

/-!
# The status line of a run

What a run writes to the output is the line of one report, unless it is a text that the command line
asked for. A failure is folded onto one line; a message and a name go onto the line as they were
given.

* `run_writes`: which report a run tells;
* `lineFeed_not_mem_summary`: the text of a failure is one line, whatever the failure says;
* **`run_isStatusLine_iff`**: a run writes one line exactly if no message and no name with a line
  feed in it is reported;
* **`run_oneTokenPerRecord_iff`**: it writes one token for each name exactly if no name has a
  separator in it.
-/

namespace ThresholdCheck.Run

open CommandLine (Word Given)

/-! ## 1. Which report is told -/

/-- The run tells a text that the command line asked for. -/
def Answers (source : ConfigSource) (words : List Word) : Prop :=
  ∃ config fault, Config.load source = .ok config ∧ check config words = .error fault ∧
    fault.isAnswer = true

/-- The run tells the report of a check. -/
def Reports (source : ConfigSource) (words : List Word) (report : Report) : Prop :=
  ∃ config, Config.load source = .ok config ∧ check config words = .ok report

/-- The run tells a failure. -/
def Fails (report : Report) : Prop := ∃ message, report = Report.unknown (summary message)

variable {host : Host} {source : ConfigSource} {words : List Word}

theorem not_answers_of_reports {report : Report} (h : Reports source words report) :
    ¬Answers source words := by
  obtain ⟨config, hload, hcheck⟩ := h
  intro hanswers
  obtain ⟨config', fault, hload', hcheck', -⟩ := hanswers
  rw [hload] at hload'
  cases hload'
  rw [hcheck] at hcheck'
  cases hcheck'

/-- The report of a check is told. -/
theorem run_of_reports {report : Report} (h : Reports source words report) (host : Host) :
    run host source words = tell host "" report := by
  obtain ⟨config, hload, hcheck⟩ := h
  unfold run
  rw [hload]
  show conclude host (check config words) = _
  rw [hcheck]
  rfl

/-- Where there is no report and no text was asked for, a failure is told. -/
theorem run_of_failure (told : ¬Answers source words) (h : ∀ report, ¬Reports source words report)
    (host : Host) : ∃ message, run host source words = fail host message := by
  unfold run
  cases hload : Config.load source with
  | error fault => exact ⟨fault.message, rfl⟩
  | ok config =>
    show ∃ message, conclude host (check config words) = fail host message
    cases hcheck : check config words with
    | ok report => exact absurd ⟨config, hload, hcheck⟩ (h report)
    | error fault =>
      have hfault : ¬fault.isAnswer = true := fun hanswer =>
        told ⟨config, fault, hload, hcheck, hanswer⟩
      unfold conclude
      dsimp only
      rw [if_neg hfault]
      exact ⟨fault.message, rfl⟩

theorem deliver_returned {purpose : Purpose} {error text : String} {exitCode : Nat}
    (h : (deliver host purpose error text exitCode).fault = none) :
    (deliver host purpose error text exitCode).output = text := by
  unfold deliver at h ⊢
  cases hout : host.output with
  | accepting => rfl
  | refusing reason =>
    rw [hout] at h
    cases h

/-- **A run writes the line of one report, which is that of a check or tells a failure.** -/
theorem run_writes (returned : (run host source words).fault = none)
    (told : ¬Answers source words) :
    ∃ report, (run host source words).output = report.line ++ "\n" ∧
      (Reports source words report ∨ Fails report ∧ ∀ r, ¬Reports source words r) := by
  by_cases hreports : ∃ report, Reports source words report
  · obtain ⟨report, hreport⟩ := hreports
    rw [run_of_reports hreport] at returned ⊢
    exact ⟨report, deliver_returned returned, .inl hreport⟩
  · have hnone : ∀ r, ¬Reports source words r := fun r hr => hreports ⟨r, hr⟩
    obtain ⟨message, hrun⟩ := run_of_failure told hnone host
    rw [hrun] at returned ⊢
    exact ⟨_, deliver_returned returned, .inr ⟨⟨message, rfl⟩, hnone⟩⟩

/-! ## 2. Failures -/

/-- **The summary of a text is one line, whatever the text.** -/
theorem lineFeed_not_mem_summary (text : String) : '\n' ∉ (summary text).toList := by
  unfold summary
  rw [String.toList_ofList, Text.mem_intercalate_iff (by decide)]
  intro h
  obtain ⟨part, hpart, hfeed⟩ := h
  have htaken := (List.takeWhile_sublist _).mem hpart
  have hdropped := (List.dropWhile_sublist _).mem htaken
  obtain ⟨line, hline, rfl⟩ := List.mem_map.1 hdropped
  exact Text.lineFeed_not_mem_of_mem_lines hline (Text.mem_of_mem_trim hfeed)

/-- The line of a report begins with the word that says what it is. -/
theorem exists_line_eq (state : Status) (message : Option String) (data : String) :
    ∃ text, Report.headline state message ++ data = "Status " ++ text := by
  rw [Report.headline_eq, String.append_assoc]
  exact ⟨_, rfl⟩

theorem lineFeed_not_mem_failure {report : Report} (h : Fails report) :
    '\n' ∉ report.line.toList := by
  obtain ⟨message, rfl⟩ := h
  unfold Report.unknown
  rw [Report.lineFeed_mem_headline_iff]
  intro hmem
  obtain ⟨m, hm, hfeed⟩ := hmem
  split at hm
  · cases hm
  · cases hm
    exact lineFeed_not_mem_summary message hfeed

/-! ## 3. One line -/

/-- One line, which begins as a status line does. -/
def IsStatusLine (output : String) : Prop :=
  ∃ text, output = "Status " ++ text ++ "\n" ∧ '\n' ∉ text.toList

/-- A message or a name that is reported has a line feed in it. -/
def GivesLineFeed (source : ConfigSource) (words : List Word) : Prop :=
  ∃ config given e, Config.load source = .ok config ∧
    (Check.plugin config).definition.parse words = .ok given ∧
    Check.evaluated config given = .ok e ∧
    ((∃ m, (given.valuesOf "message").head? = some m ∧ '\n' ∈ m.toList) ∨
      ∃ a ∈ Check.argumentsOf given.arguments, '\n' ∈ a.name.toList)

theorem isStatusLine_iff {line : String} (h : ∃ text, line = "Status " ++ text) :
    IsStatusLine (line ++ "\n") ↔ '\n' ∉ line.toList := by
  obtain ⟨text, rfl⟩ := h
  have hstatus : '\n' ∉ "Status ".toList := by decide
  rw [String.toList_append, List.mem_append, or_iff_right hstatus]
  constructor
  · intro hline
    obtain ⟨other, heq, hother⟩ := hline
    have hsame := congrArg String.toList heq
    simp only [String.toList_append, List.append_cancel_left_eq, List.append_cancel_right_eq]
      at hsame
    rw [hsame]
    exact hother
  · intro htext
    exact ⟨text, rfl, htext⟩

/-- The line of a check has a line feed in it exactly if one was given. -/
theorem lineFeed_mem_report_iff {report : Report} (h : Reports source words report) :
    '\n' ∈ report.line.toList ↔ GivesLineFeed source words := by
  obtain ⟨config, hload, hcheck⟩ := h
  obtain ⟨given, e, hgiven, he, rfl⟩ := Check.check_eq_ok_iff.1 hcheck
  have hmessage : (∃ m, (given.valuesOf "message").head?.map Report.sanitize = some m ∧
      '\n' ∈ m.toList) ↔
      ∃ m, (given.valuesOf "message").head? = some m ∧ '\n' ∈ m.toList := by
    cases (given.valuesOf "message").head? with
    | none => simp
    | some m => simp [Report.mem_sanitize_iff]
  show '\n' ∈ (Report.ofRecords e.records _).line.toList ↔ _
  rw [Report.lineFeed_mem_line_iff (Check.evaluated_legible he), hmessage,
    Check.exists_record_iff he fun n => '\n' ∈ n.toList]
  constructor
  · intro hfeed
    exact ⟨config, given, e, hload, hgiven, he, hfeed⟩
  · intro hgives
    obtain ⟨config', given', e', hload', hgiven', -, hfeed⟩ := hgives
    rw [hload] at hload'
    cases hload'
    rw [hgiven] at hgiven'
    cases hgiven'
    exact hfeed

/-- **A run that returns and was not asked for a text writes `Status ` and more, up to a last line
    feed. It is one line exactly if no message and no name with a line feed in it is reported.** -/
theorem run_isStatusLine_iff (returned : (run host source words).fault = none)
    (told : ¬Answers source words) :
    (∃ text, (run host source words).output = "Status " ++ text ++ "\n") ∧
    (IsStatusLine (run host source words).output ↔ ¬GivesLineFeed source words) := by
  obtain ⟨report, houtput, hreport⟩ := run_writes returned told
  have hbegins : ∃ text, report.line = "Status " ++ text := by
    rcases hreport with ⟨config, -, hcheck⟩ | ⟨⟨message, rfl⟩, -⟩
    · obtain ⟨given, e, -, -, rfl⟩ := Check.check_eq_ok_iff.1 hcheck
      exact exists_line_eq _ _ _
    · rw [Report.unknown, ← String.append_empty (s := Report.headline _ _)]
      exact exists_line_eq _ _ _
  have hfeed : '\n' ∈ report.line.toList ↔ GivesLineFeed source words := by
    rcases hreport with hreport | ⟨hfails, hnone⟩
    · exact lineFeed_mem_report_iff hreport
    · refine iff_of_false (lineFeed_not_mem_failure hfails) ?_
      intro hgives
      obtain ⟨config, given, e, hload, hgiven, he, -⟩ := hgives
      exact hnone _ ⟨config, hload, Check.check_eq_ok_iff.2 ⟨given, e, hgiven, he, rfl⟩⟩
  rw [houtput, isStatusLine_iff hbegins, hfeed]
  obtain ⟨text, htext⟩ := hbegins
  exact ⟨⟨text, by rw [htext]⟩, Iff.rfl⟩

theorem run_isStatusLine_iff_plain :
    let host : Host := ⟨.accepting, .accepting⟩
    let words := ["nagrange", "-m", "disk", "load=5"].map Word.ofString
    (run host .unset words).fault = none ∧ ¬Answers .unset words ∧
    (IsStatusLine (run host .unset words).output ↔ ¬GivesLineFeed .unset words) := by
  intro host words
  have returned : (run host .unset words).fault = none := by decide +kernel
  have reported : Reports .unset words ⟨.ok, "Status Ok, disk|load=5;;;;"⟩ :=
    ⟨.default, rfl, eq_ok_of_toOption (by decide +kernel)⟩
  have told : ¬Answers .unset words := not_answers_of_reports reported
  exact ⟨returned, told, (run_isStatusLine_iff returned told).2⟩

/-- A message with a line feed in it is written as two lines. -/
theorem run_message_twoLines :
    let host : Host := ⟨.accepting, .accepting⟩
    let words := ["nagrange", "-m", "a\nb"].map Word.ofString
    (run host .unset words).fault = none ∧ ¬Answers .unset words ∧
    (run host .unset words).output = "Status Ok, a\nb" ++ "\n" ∧
    ¬IsStatusLine (run host .unset words).output := by
  intro host words
  have returned : (run host .unset words).fault = none := by decide +kernel
  have reported : Reports .unset words ⟨.ok, "Status Ok, a\nb"⟩ :=
    ⟨.default, rfl, eq_ok_of_toOption (by decide +kernel)⟩
  have told : ¬Answers .unset words := not_answers_of_reports reported
  have houtput : (run host .unset words).output = "Status Ok, a\nb" ++ "\n" := by decide +kernel
  have hbegins : ∃ text, "Status Ok, a\nb" = "Status " ++ text := ⟨"Ok, a\nb", by decide⟩
  refine ⟨returned, told, houtput, ?_⟩
  rw [houtput, isStatusLine_iff hbegins]
  decide

/-! ## 4. One token for each name -/

/-- **A run that reports measurements writes one token for each name, in the order in which the
    names came up first, exactly if no name has a `|` or a space in it.** -/
theorem run_oneTokenPerRecord_iff {config : Config} {given : Given} {report : Report}
    (loaded : Config.load source = .ok config)
    (accepted : (Check.plugin config).definition.parse words = .ok given)
    (reported : check config words = .ok report) (measured : given.arguments ≠ [])
    (returned : (run host source words).fault = none) :
    (run host source words).output = report.line ++ "\n" ∧
    ∃ e, Check.evaluated config given = .ok e ∧
      e.records.map Record.name =
        ((Check.argumentsOf given.arguments).map Argument.name).eraseDups ∧
      (Report.OneTokenPerRecord report.line e.records ↔
        ∀ a ∈ Check.argumentsOf given.arguments, '|' ∉ a.name.toList ∧ ' ' ∉ a.name.toList) := by
  obtain ⟨given', e, hgiven, he, rfl⟩ := Check.check_eq_ok_iff.1 reported
  rw [accepted] at hgiven
  cases hgiven
  constructor
  · rw [run_of_reports ⟨config, loaded, reported⟩] at returned ⊢
    exact deliver_returned returned
  · refine ⟨e, he, Check.evaluated_names he, ?_⟩
    have hne : e.records ≠ [] := Check.records_ne_nil he measured
    show Report.OneTokenPerRecord (Report.ofRecords e.records _).line e.records ↔ _
    rw [Report.oneTokenPerRecord_iff (Check.evaluated_legible he) hne]
    exact Check.forall_record_iff he fun n => '|' ∉ n.toList ∧ ' ' ∉ n.toList

theorem run_oneTokenPerRecord_iff_repeated :
    let host : Host := ⟨.accepting, .accepting⟩
    let words := ["nagrange", "load=5", "disk=1%", "load=7"].map Word.ofString
    let given : Given := ⟨0, [], ["load=5", "disk=1%", "load=7"]⟩
    let report : Report := ⟨.ok, "Status Ok|load=7;;;; disk=1%;;;;"⟩
    Config.load .unset = .ok .default ∧
    (Check.plugin .default).definition.parse words = .ok given ∧
    check .default words = .ok report ∧ given.arguments ≠ [] ∧
    (run host .unset words).fault = none ∧
    ∃ e, Check.evaluated .default given = .ok e ∧
      Report.OneTokenPerRecord report.line e.records := by
  intro host words given report
  have accepted : (Check.plugin .default).definition.parse words = .ok given := rfl
  have reported : check .default words = .ok report := eq_ok_of_toOption (by decide +kernel)
  have measured : given.arguments ≠ [] := List.cons_ne_nil _ _
  have returned : (run host .unset words).fault = none := by decide +kernel
  obtain ⟨-, e, he, -, hiff⟩ := run_oneTokenPerRecord_iff rfl accepted reported measured returned
  exact ⟨rfl, accepted, reported, measured, returned, e, he, hiff.2 (by decide +kernel)⟩

/-- A name with a space in it is written as two tokens. -/
theorem run_name_twoTokens :
    let words := ["nagrange", "a b=1"].map Word.ofString
    let given : Given := ⟨0, [], ["a b=1"]⟩
    let report : Report := ⟨.ok, "Status Ok|a b=1;;;;"⟩
    Config.load .unset = .ok .default ∧
    (Check.plugin .default).definition.parse words = .ok given ∧
    check .default words = .ok report ∧
    ∃ e, Check.evaluated .default given = .ok e ∧
      ¬Report.OneTokenPerRecord report.line e.records := by
  intro words given report
  have accepted : (Check.plugin .default).definition.parse words = .ok given := rfl
  have reported : check .default words = .ok report := eq_ok_of_toOption (by decide +kernel)
  obtain ⟨given', e, hgiven, he, -⟩ := Check.check_eq_ok_iff.1 reported
  rw [accepted] at hgiven
  cases hgiven
  refine ⟨rfl, accepted, reported, e, he, ?_⟩
  intro hone
  obtain ⟨data, hdata, -, hsplit⟩ := hone
  have hline : Report.performanceOf report.line = some "a b=1;;;;".toList := by decide
  rw [hline] at hdata
  cases hdata
  -- two texts are left between the spaces, and the evaluator has one record
  have htexts := congrArg List.length hsplit
  have hlength : e.records.length = 1 := by
    rw [← List.length_map (f := Record.name), Check.evaluated_names he]
    decide +kernel
  rw [List.length_map, hlength] at htexts
  exact absurd htexts (by decide)

end ThresholdCheck.Run
