import ThresholdCheck.Plugin.Basic
import ThresholdCheck.Proofs.Report.Line

/-!
# A message does not reach the performance data

A message comes from a command line, so it may be any text; what reads the line after it trusts the
first `|`.

* `ofRecords_sanitize`: a message may be made fit for the line before, the report is the same;
* `Plugin.finish_setMessage`: so a plugin that was given a message reports it as if it came directly;
* `SameButMessage`: what of two reports has to be alike if they differ in the message only;
* **`message_inert`**: a line begins with status and message, which hold no `|`, and what stands
  behind them depends on the records alone.
-/

namespace ThresholdCheck

namespace Report

/-! ## 1. A message that was made fit before -/

theorem ofRecords_sanitize (message : Option String) (rs : List Record) :
    ofRecords rs (message.map sanitize) = ofRecords rs message := by
  unfold ofRecords
  dsimp only
  rw [headline_sanitize]

end Report

namespace Plugin

/-- A plugin that is given a message reports its records with it, and as before otherwise. -/
theorem finish_setMessage (p : Plugin) (message : String) :
    (p.setMessage message).finish =
      p.currentSession.map fun s => Report.ofRecords s.evaluator.records (some message) := by
  have hreport : (p.setMessage message).finish = p.currentSession.map fun s =>
      Report.ofRecords s.evaluator.records ((some message).map Report.sanitize) := rfl
  simp only [hreport, Report.ofRecords_sanitize]

end Plugin

namespace Report

/-! ## 2. Two messages -/

/-- Two reports tell the same apart from what stands before the performance data. -/
structure SameButMessage (report report' : Report) : Prop where
  status : report.status = report'.status
  exitCode : report.exitCode = report'.exitCode
  performance : performanceOf report.line = performanceOf report'.line

theorem sameButMessage (rs : List Record) (message message' : Option String) :
    SameButMessage (ofRecords rs message) (ofRecords rs message') where
  status := rfl
  exitCode := rfl
  performance := by rw [performanceOf_eq, performanceOf_eq]

/-! ## 3. The line -/

/-- **A message cannot forge performance data.** It is made fit for the line by a space for each
    `|`; every other character stays in its place. A line is status and message, then a `|` and the
    tokens of the records if there are any. No `|` stands in the first part, so the first one of the
    line is the one before the tokens, whatever the message is; two messages make no difference to
    status, exit code and performance data. A message that a plugin was given, which is made fit for
    the line twice, is told as if it was made fit once. -/
theorem message_inert :
    (∀ (m : String) (i : Nat),
      (sanitize m).toList[i]? = m.toList[i]?.map fun c => if c = '|' then ' ' else c) ∧
    (∀ (rs : List Record) (message : Option String),
      let report := ofRecords rs message
      let lead :=
        "Status " ++ report.status.word ++ (message.map fun m => ", " ++ sanitize m).getD ""
      report.line = lead ++ (if rs = [] then "" else "|" ++ " ".intercalate (rs.map Record.token)) ∧
      '|' ∉ lead.toList ∧
      Text.cut '|' report.line.toList = if rs = [] then none else some (lead.toList, tokens rs)) ∧
    (∀ (rs : List Record) (message message' : Option String),
      SameButMessage (ofRecords rs message) (ofRecords rs message')) ∧
    ∀ (p : Plugin) (message : String),
      (p.setMessage message).finish =
        p.currentSession.map fun s => ofRecords s.evaluator.records (some message) := by
  refine ⟨getElem?_sanitize, ?_, sameButMessage, Plugin.finish_setMessage⟩
  intro rs message report lead
  have hlead : headline (overall rs) message = lead := headline_eq_append _ _
  refine ⟨?_, ?_, ?_⟩
  · rw [← performance_eq, ← hlead]
    rfl
  · rw [← hlead]
    exact bar_not_mem_headline _ _
  · rw [cut_line, hlead]

end Report

end ThresholdCheck
