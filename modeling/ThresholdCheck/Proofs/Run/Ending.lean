import ThresholdCheck.Proofs.Run.StatusLine

/-!
# How a run ends

What a run has to tell is the same on every host (`Telling`), and it is of one of three kinds
(`Ends`): a text that the command line asked for, the report of a check, or a failure. The host only
takes it or refuses it.

* `exists_telling`: what a run has to tell, for all hosts at once;
* `Telling.on_of_accepting`, `Telling.on_of_refusing`: what either host makes of it;
* `Ends.exitCode_eq_three_iff`, `Ends.beginsAs_iff`: how its exit code and its first words go
  together;
* **`run_ending`**: so a run ends, on every host.
-/

namespace ThresholdCheck.Run

open CommandLine (Word)

/-! ## 1. What there is to tell -/

/-- What a run has to tell, whatever the host. -/
structure Telling where
  purpose : Purpose
  error : String
  text : String
  exitCode : Nat

/-- What becomes of it on a host. -/
def Telling.on (t : Telling) (host : Host) : Outcome :=
  deliver host t.purpose (host.error.taken t.error) t.text t.exitCode

/-- There is a failure to tell: the configuration is not loaded, or the check has a fault that is no
    answer to the command line. -/
def Faulty (source : ConfigSource) (words : List Word) : Prop :=
  (∃ fault, Config.load source = .error fault) ∨
    ∃ config fault, Config.load source = .ok config ∧ check config words = .error fault ∧
      fault.isAnswer = false

/-- What a run may have to tell. -/
inductive Ends (source : ConfigSource) (words : List Word) : Telling → Prop where
  /-- a text that the command line asked for -/
  | answer (text : String) (asked : Answers source words) :
      Ends source words ⟨.helpPage, "", text, 0⟩
  /-- the report of a check -/
  | report (report : Report) (reported : Reports source words report) :
      Ends source words ⟨.statusLine, "", report.line ++ "\n", report.exitCode⟩
  /-- a failure -/
  | failure (message : String) (faulty : Faulty source words) :
      Ends source words
        ⟨.statusLine, errorText message, (Report.unknown (summary message)).line ++ "\n", 3⟩

variable {source : ConfigSource} {words : List Word}

/-- No stream takes anything of nothing. -/
theorem taken_empty (s : Stream) : s.taken "" = "" := by
  cases s <;> rfl

/-- **Each run has one thing to tell, on all hosts the same.** -/
theorem exists_telling (source : ConfigSource) (words : List Word) :
    ∃ t, Ends source words t ∧ ∀ host, run host source words = t.on host := by
  cases hload : Config.load source with
  | error fault =>
    refine ⟨_, .failure fault.message (.inl ⟨fault, hload⟩), fun host => ?_⟩
    unfold run
    rw [hload]
    rfl
  | ok config =>
    have hrun : ∀ host, run host source words = conclude host (check config words) := by
      intro host
      unfold run
      rw [hload]
    cases hcheck : check config words with
    | ok report =>
      refine ⟨_, .report report ⟨config, hload, hcheck⟩, fun host => ?_⟩
      rw [hrun, hcheck]
      unfold Telling.on conclude tell
      rw [taken_empty]
    | error fault =>
      by_cases hanswer : fault.isAnswer = true
      · refine ⟨_, .answer fault.message ⟨config, fault, hload, hcheck, hanswer⟩, fun host => ?_⟩
        rw [hrun, hcheck]
        unfold Telling.on conclude
        dsimp only
        rw [if_pos hanswer, taken_empty]
      · have hfaulty : Faulty source words :=
          .inr ⟨config, fault, hload, hcheck, Bool.eq_false_iff.2 hanswer⟩
        refine ⟨_, .failure fault.message hfaulty, fun host => ?_⟩
        rw [hrun, hcheck]
        unfold conclude
        dsimp only
        rw [if_neg hanswer]
        rfl

/-! ## 2. What a host makes of it -/

theorem Telling.on_of_accepting (t : Telling) {host : Host} (h : host.output = .accepting) :
    t.on host = ⟨t.text, host.error.taken t.error, [t.exitCode], none⟩ := by
  unfold on deliver
  rw [h]

theorem Telling.on_of_refusing (t : Telling) {host : Host} {reason : String}
    (h : host.output = .refusing reason) :
    t.on host = ⟨"", host.error.taken t.error, [], some ⟨reason, t.purpose⟩⟩ := by
  unfold on deliver
  rw [h]

/-- The output is refused exactly if the run ends early. -/
theorem Telling.on_fault_iff (t : Telling) (host : Host) :
    (t.on host).fault = none ↔ host.output = .accepting := by
  cases h : host.output with
  | accepting =>
    rw [t.on_of_accepting h]
    exact iff_of_true rfl rfl
  | refusing reason =>
    rw [t.on_of_refusing h]
    exact iff_of_false (Option.some_ne_none _) Stream.noConfusion

/-- Only what is written to the error stream depends on it. -/
theorem Telling.on_error (t : Telling) (output first second : Stream) :
    (t.on ⟨output, first⟩).output = (t.on ⟨output, second⟩).output ∧
    (t.on ⟨output, first⟩).exits = (t.on ⟨output, second⟩).exits ∧
    (t.on ⟨output, first⟩).fault = (t.on ⟨output, second⟩).fault := by
  unfold on deliver
  cases output with
  | accepting => exact ⟨rfl, rfl, rfl⟩
  | refusing reason => exact ⟨rfl, rfl, rfl⟩

/-! ## 3. The three kinds exclude each other -/

theorem not_faulty_of_answers (h : Answers source words) : ¬Faulty source words := by
  obtain ⟨config, fault, hload, hcheck, hanswer⟩ := h
  intro hfaulty
  rcases hfaulty with ⟨cause, hnone⟩ | ⟨config', fault', hload', hcheck', hother⟩
  · rw [hload] at hnone
    cases hnone
  · rw [hload] at hload'
    cases hload'
    rw [hcheck] at hcheck'
    cases hcheck'
    rw [hanswer] at hother
    cases hother

theorem not_faulty_of_reports {report : Report} (h : Reports source words report) :
    ¬Faulty source words := by
  obtain ⟨config, hload, hcheck⟩ := h
  intro hfaulty
  rcases hfaulty with ⟨cause, hnone⟩ | ⟨config', fault, hload', hcheck', -⟩
  · rw [hload] at hnone
    cases hnone
  · rw [hload] at hload'
    cases hload'
    rw [hcheck] at hcheck'
    cases hcheck'

/-! ## 4. Exit codes and first words -/

/-- The report of a check is never unknown. -/
theorem status_ne_unknown {report : Report} (h : Reports source words report) :
    report.status ≠ .unknown := by
  obtain ⟨config, -, hcheck⟩ := h
  obtain ⟨given, e, -, he, rfl⟩ := Check.check_eq_ok_iff.1 hcheck
  show Report.overall e.records ≠ .unknown
  rw [(Check.evaluated_consistent he).overall_eq_verdict]
  exact Token.verdict_ne_unknown _

/-- The text begins as the line of a status does. -/
def BeginsAs (status : Status) (text : String) : Prop :=
  ∃ rest, text = "Status " ++ status.word ++ rest

/-- No word of a status is continued to another one. -/
theorem eq_of_word_append {a b : Status} {cs ds : List Char}
    (h : a.word.toList ++ cs = b.word.toList ++ ds) : a = b := by
  -- the words differ in their first letters
  have hfirst := congrArg List.head? h
  cases a <;> cases b <;> simp_all [Status.word]

/-- A text begins as the line of one status only. -/
theorem BeginsAs.unique {a b : Status} {text : String} (ha : BeginsAs a text)
    (hb : BeginsAs b text) : a = b := by
  obtain ⟨rest, rfl⟩ := ha
  obtain ⟨rest', heq⟩ := hb
  have hwords := congrArg String.toList heq
  simp only [String.toList_append, List.append_assoc, List.append_cancel_left_eq] at hwords
  exact eq_of_word_append hwords

/-- The line of a report begins as that of its status. -/
theorem beginsAs_line (status : Status) (message : Option String) (data : String) :
    BeginsAs status (Report.headline status message ++ data) := by
  rw [Report.headline_eq, ← String.append_assoc, String.append_assoc]
  exact ⟨_, rfl⟩

namespace Ends

variable {t : Telling}

/-- **The exit code is 3 exactly for a failure.** -/
theorem exitCode_eq_three_iff (h : Ends source words t) :
    t.exitCode = 3 ↔ Faulty source words := by
  cases h with
  | answer text asked =>
    exact iff_of_false (by decide : (0 : Nat) ≠ 3) (not_faulty_of_answers asked)
  | report report reported =>
    have hcode : report.exitCode ≠ 3 := Status.exitCode_ne_three (status_ne_unknown reported)
    exact iff_of_false hcode (not_faulty_of_reports reported)
  | failure message faulty => exact iff_of_true rfl faulty

theorem exitCode_of_answers (h : Ends source words t) (asked : Answers source words) :
    t.exitCode = 0 := by
  cases h with
  | answer text asked => rfl
  | report report reported => exact absurd asked (not_answers_of_reports reported)
  | failure message faulty => exact absurd faulty (not_faulty_of_answers asked)

/-- **A status line has the first words of the status whose exit code it goes with.** -/
theorem exists_status (h : Ends source words t) (told : ¬Answers source words) :
    ∃ status : Status, t.exitCode = status.exitCode ∧
      ∀ other, BeginsAs other t.text ↔ other = status := by
  have hbegins : ∃ status : Status, t.exitCode = status.exitCode ∧ BeginsAs status t.text := by
    cases h with
    | answer text asked => exact absurd asked told
    | report report reported =>
      obtain ⟨config, -, hcheck⟩ := reported
      obtain ⟨given, e, -, -, rfl⟩ := Check.check_eq_ok_iff.1 hcheck
      refine ⟨Report.overall e.records, rfl, ?_⟩
      show BeginsAs _ (Report.headline _ _ ++ Report.performance e.records ++ "\n")
      rw [String.append_assoc]
      exact beginsAs_line _ _ _
    | failure message faulty => exact ⟨.unknown, rfl, beginsAs_line _ _ _⟩
  obtain ⟨status, hcode, hstatus⟩ := hbegins
  refine ⟨status, hcode, fun other => ⟨fun hother => hother.unique hstatus, ?_⟩⟩
  rintro rfl
  exact hstatus

/-- **A failure is told without performance data.** -/
theorem bar_not_mem_text (h : Ends source words t) (faulty : Faulty source words) :
    '|' ∉ t.text.toList := by
  cases h with
  | answer text asked => exact absurd faulty (not_faulty_of_answers asked)
  | report report reported => exact absurd faulty (not_faulty_of_reports reported)
  | failure message faulty =>
    have hline := Report.bar_not_mem_headline .unknown
      (if summary message = "" then none else some (summary message))
    show '|' ∉ (Report.headline .unknown _ ++ "\n").toList
    rw [String.toList_append, List.mem_append, not_or]
    exact ⟨hline, by decide⟩

end Ends

/-! ## 5. The run -/

/-- **How a run ends.** It returns exactly if the output takes what is written, and then it exits
    once, otherwise never; the error stream has no part in that. The exit code is 0 where a text was
    asked for, and else goes with the first words of the line. It is 3 exactly if the configuration
    is not loaded or the check has a fault, and then no performance data are written. -/
theorem run_ending (host : Host) (source : ConfigSource) (words : List Word) :
    let outcome := run host source words
    (outcome.fault = none ↔ host.output = .accepting) ∧
    (outcome.fault = none → ∃ code, outcome.exits = [code]) ∧
    (outcome.fault ≠ none → outcome.exits = []) ∧
    (∀ error : Stream,
      (run ⟨host.output, error⟩ source words).output = outcome.output ∧
      (run ⟨host.output, error⟩ source words).exits = outcome.exits ∧
      (run ⟨host.output, error⟩ source words).fault = outcome.fault) ∧
    (outcome.fault = none → Answers source words → outcome.exits = [0]) ∧
    (outcome.fault = none → ¬Answers source words →
      ∃ status : Status, outcome.exits = [status.exitCode] ∧
        ∀ other, BeginsAs other outcome.output ↔ other = status) ∧
    (outcome.fault = none → (outcome.exits = [3] ↔ Faulty source words)) ∧
    (Faulty source words → '|' ∉ outcome.output.toList) := by
  intro outcome
  obtain ⟨t, hends, hrun⟩ := exists_telling source words
  have houtcome : outcome = t.on host := hrun host
  have hreturns : outcome.fault = none ↔ host.output = .accepting := by
    rw [houtcome]
    exact t.on_fault_iff host
  have haccepted : outcome.fault = none →
      outcome.output = t.text ∧ outcome.exits = [t.exitCode] := by
    intro h
    rw [houtcome, t.on_of_accepting (hreturns.1 h)]
    exact ⟨rfl, rfl⟩
  have hrefused : outcome.fault ≠ none → outcome.output = "" ∧ outcome.exits = [] := by
    intro h
    cases hout : host.output with
    | accepting => exact absurd (hreturns.2 hout) h
    | refusing reason =>
      rw [houtcome, t.on_of_refusing hout]
      exact ⟨rfl, rfl⟩
  refine ⟨hreturns, fun h => ⟨t.exitCode, (haccepted h).2⟩, fun h => (hrefused h).2,
    ?_, ?_, ?_, ?_, ?_⟩
  · intro error
    rw [hrun, houtcome]
    exact t.on_error host.output error host.error
  · intro h asked
    rw [(haccepted h).2, hends.exitCode_of_answers asked]
  · intro h told
    obtain ⟨status, hcode, hbegins⟩ := hends.exists_status told
    rw [(haccepted h).1, (haccepted h).2, hcode]
    exact ⟨status, rfl, hbegins⟩
  · intro h
    rw [(haccepted h).2, List.singleton_inj]
    exact hends.exitCode_eq_three_iff
  · intro faulty
    by_cases h : outcome.fault = none
    · rw [(haccepted h).1]
      exact hends.bar_not_mem_text faulty
    · rw [(hrefused h).1]
      exact List.not_mem_nil

/-- The first measurement is critical, but the second one is none: the run ends as unknown and
    without performance data, though the error stream is refused. -/
theorem run_ending_brokenErrorStream :
    let host : Host := ⟨.accepting, .refusing "stream closed"⟩
    let words := ["nagrange", "-c", "10", "load=15", "disk=full|x"].map Word.ofString
    (run host .unset words).fault = none ∧ Faulty .unset words ∧
    (run host .unset words).exits = [3] ∧ '|' ∉ (run host .unset words).output.toList := by
  intro host words
  obtain ⟨hreturns, -, -, -, -, -, hcode, hbar⟩ := run_ending host .unset words
  have returned : (run host .unset words).fault = none := hreturns.2 rfl
  have hexits : (run host .unset words).exits = [3] := by decide +kernel
  have faulty : Faulty .unset words := (hcode returned).1 hexits
  exact ⟨returned, faulty, hexits, hbar faulty⟩

end ThresholdCheck.Run
