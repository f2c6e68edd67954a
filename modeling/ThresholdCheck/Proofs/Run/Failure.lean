import ThresholdCheck.Proofs.Run.StatusLine
import ThresholdCheck.Proofs.Text.Paragraph

/-!
# How a failure is told

The whole text of a failure goes to the error stream; the status line has its first paragraph, folded
onto one line. The texts come from elsewhere and have any number of lines, with indentation and
carriage returns.

* `IsSummary`: the lines of the first paragraph, each trimmed, with a space between two;
  **`isSummary_iff`**: the summary is the one such text;
* `summary_append`, `summary_prepend`: blank lines before a text, and whatever follows a blank line
  behind it, do not change its summary;
* `summary_summary`: a summary is its own summary;
* **`fail_told`**: so a failure is told, on a host that takes what is written.
-/

namespace ThresholdCheck.Run

/-! ## 1. The first paragraph -/

/-- The text has a line that is not blank. -/
def HasText (text : String) : Prop :=
  ∃ line ∈ Text.lines text.toList, Text.isBlankText line = false

/-- The first line of the text is blank, if it has lines. -/
def BeginsBlank (text : String) : Prop :=
  ∀ line, (Text.lines text.toList).head? = some line → Text.isBlankText line = true

/-- The text ends in a line feed. -/
def IsEnded (text : String) : Prop := ∃ front, text = front ++ "\n"

/-- The line has the lines of the first paragraph of the text, each without the blanks around it and
    with a space between two. -/
def IsSummary (text line : String) : Prop :=
  ∃ block, Text.FirstBlock Text.isBlankText (Text.lines text.toList) block ∧
    line = String.ofList ([' '].intercalate (block.map Text.trim))

/-- The first rows of a text that are not empty. -/
def paragraph (text : String) : List (List Char) :=
  ((Text.rows text.toList).dropWhile List.isEmpty).takeWhile fun row => !row.isEmpty

theorem summary_eq (text : String) :
    summary text = String.ofList ([' '].intercalate (paragraph text)) := rfl

variable {text : String}

theorem firstBlock_paragraph (text : String) :
    Text.FirstBlock List.isEmpty (Text.rows text.toList) (paragraph text) :=
  Text.firstBlock_iff.2 rfl

/-- The paragraph is the only first block of rows. -/
theorem paragraph_of_firstBlock {block : List (List Char)}
    (h : Text.FirstBlock List.isEmpty (Text.rows text.toList) block) : paragraph text = block :=
  (Text.firstBlock_iff.1 h).symm

/-- A row is empty exactly if its line is blank. -/
theorem isEmpty_trim : List.isEmpty ∘ Text.trim = Text.isBlankText := by
  funext line
  rw [Function.comp_apply, Bool.eq_iff_iff, List.isEmpty_iff, Text.trim_eq_nil_iff]

theorem trimmed_of_mem_paragraph {row : List Char} (h : row ∈ paragraph text) :
    Text.trim row = row ∧ row ≠ [] := by
  have hrow : row ∈ Text.rows text.toList :=
    (List.dropWhile_sublist _).mem ((List.takeWhile_sublist _).mem h)
  have hsome := List.mem_takeWhile_imp h
  exact ⟨Text.trim_of_mem_rows hrow, by simpa using hsome⟩

/-- There is a paragraph exactly if the text has a line that is not blank. -/
theorem paragraph_ne_nil_iff : paragraph text ≠ [] ↔ HasText text := by
  unfold HasText
  rw [ne_eq, (firstBlock_paragraph text).eq_nil_iff]
  unfold Text.rows
  rw [List.forall_mem_map, ← isEmpty_trim]
  simp

/-! ## 2. The summary -/

/-- The summary is the first block of lines on one line. -/
theorem summary_of_firstBlock {block : List (List Char)}
    (h : Text.FirstBlock Text.isBlankText (Text.lines text.toList) block) :
    summary text = String.ofList ([' '].intercalate (block.map Text.trim)) := by
  rw [← isEmpty_trim] at h
  rw [summary_eq, paragraph_of_firstBlock h.map]

/-- **The summary is the first paragraph on one line, and nothing else is.** -/
theorem isSummary_iff {line : String} : IsSummary text line ↔ line = summary text := by
  constructor
  · intro h
    obtain ⟨block, hblock, rfl⟩ := h
    exact (summary_of_firstBlock hblock).symm
  · intro h
    have hblock : Text.FirstBlock Text.isBlankText (Text.lines text.toList) _ :=
      Text.firstBlock_iff.2 rfl
    exact ⟨_, hblock, h.trans (summary_of_firstBlock hblock)⟩

/-- Joined by blanks the rows begin and end in no blank, and are no empty text. -/
theorem trim_joined_paragraph (text : String) :
    Text.trim ([' '].intercalate (paragraph text)) = [' '].intercalate (paragraph text) ∧
      (paragraph text ≠ [] → [' '].intercalate (paragraph text) ≠ []) :=
  Text.trim_intercalate fun _ => trimmed_of_mem_paragraph

/-- **A summary begins and ends in no blank.** -/
theorem trimmed_summary (text : String) : Text.trimmed (summary text) = summary text := by
  unfold Text.trimmed
  rw [summary_eq, String.toList_ofList, (trim_joined_paragraph text).1]

/-- There is a summary exactly if the text has a line that is not blank. -/
theorem summary_ne_empty_iff : summary text ≠ "" ↔ HasText text := by
  rw [← paragraph_ne_nil_iff, summary_eq, ne_eq, ne_eq, String.ofList_eq_empty_iff]
  refine not_congr ⟨fun hempty => ?_, fun hempty => by rw [hempty]; rfl⟩
  by_contra hne
  exact (trim_joined_paragraph text).2 hne hempty

/-- **A summary is its own summary.** -/
theorem summary_summary (text : String) : summary (summary text) = summary text := by
  have hrows := Text.rows_of_not_mem (lineFeed_not_mem_summary text)
  have htrim : Text.trim (summary text).toList = (summary text).toList := by
    rw [← Text.toList_trimmed, trimmed_summary]
  by_cases hempty : summary text = ""
  · rw [hempty]
    rfl
  · have hne : (summary text).toList ≠ [] := mt String.toList_eq_nil_iff.1 hempty
    have hblock : paragraph (summary text) = [(summary text).toList] := by
      unfold paragraph
      rw [hrows, if_neg hne, htrim, List.dropWhile_cons_of_neg (by simpa using hne),
        List.takeWhile_cons_of_pos (by simpa using hne)]
      rfl
    rw [summary_eq (summary text), hblock, List.intercalate_singleton, String.ofList_toList]

/-! ## 3. What stands around the first paragraph -/

/-- **Blank lines before a text do not change its summary.** -/
theorem summary_prepend {blanks : String} (h : Text.isBlankText blanks.toList = true)
    (text : String) : summary (blanks ++ "\n" ++ text) = summary text := by
  have hrows : Text.rows (blanks ++ "\n" ++ text).toList =
      (blanks.toList.splitOn '\n').map Text.trim ++ Text.rows text.toList := by
    rw [← Text.rows_append]
    simp
  have hfront : ∀ row ∈ (blanks.toList.splitOn '\n').map Text.trim, row.isEmpty = true := by
    refine List.forall_mem_map.2 fun part hpart => ?_
    rw [Text.trim_of_mem_splitOn_blank h hpart]
    rfl
  have hblock := (firstBlock_paragraph text).prepend hfront
  rw [← hrows] at hblock
  rw [summary_eq, summary_eq, paragraph_of_firstBlock hblock]

theorem isEmpty_head?_rows {more : String} (h : BeginsBlank more) {row : List Char}
    (hrow : (Text.rows more.toList).head? = some row) : row.isEmpty = true := by
  unfold Text.rows at hrow
  rw [List.head?_map, Option.map_eq_some_iff] at hrow
  obtain ⟨line, hline, rfl⟩ := hrow
  rw [List.isEmpty_iff, Text.trim_eq_nil_iff]
  exact h line hline

/-- Rows behind the text that begin with an empty one do not change its summary. -/
theorem summary_of_rows_append {whole : String} {back : List (List Char)} (h : HasText text)
    (hrows : Text.rows whole.toList = Text.rows text.toList ++ back)
    (hback : ∀ row, back.head? = some row → row.isEmpty = true) : summary whole = summary text := by
  have hblock := (firstBlock_paragraph text).append hback (paragraph_ne_nil_iff.2 h)
  rw [← hrows] at hblock
  rw [summary_eq, summary_eq, paragraph_of_firstBlock hblock]

/-- **A blank line, and whatever follows it, does not change the summary of the text before it.** -/
theorem summary_append (h : HasText text) {more : String} (blank : BeginsBlank more) :
    summary (text ++ "\n" ++ more) = summary text := by
  obtain ⟨gap, hgap, hempty⟩ := Text.exists_map_trim_splitOn text.toList
  have hrows : Text.rows (text ++ "\n" ++ more).toList =
      Text.rows text.toList ++ (gap ++ Text.rows more.toList) := by
    rw [← List.append_assoc, ← hgap, ← Text.rows_append]
    simp
  refine summary_of_rows_append h hrows fun row hrow => ?_
  rw [List.head?_append, Option.or_eq_some_iff] at hrow
  rcases hrow with hrow | ⟨-, hrow⟩
  · rw [hempty row (List.mem_of_head? hrow)]
    rfl
  · exact isEmpty_head?_rows blank hrow

/-- The line feed between them may be the one that ends the text. -/
theorem summary_append_of_ended (h : HasText text) (ended : IsEnded text) {more : String}
    (blank : BeginsBlank more) : summary (text ++ more) = summary text := by
  obtain ⟨front, rfl⟩ := ended
  have hfront : Text.rows (front ++ "\n").toList = (front.toList.splitOn '\n').map Text.trim := by
    have happend := Text.rows_append front.toList []
    rw [show Text.rows [] = [] from rfl, List.append_nil] at happend
    rw [← happend]
    simp
  have hrows : Text.rows (front ++ "\n" ++ more).toList =
      Text.rows (front ++ "\n").toList ++ Text.rows more.toList := by
    rw [hfront, ← Text.rows_append]
    simp
  exact summary_of_rows_append h hrows fun row => isEmpty_head?_rows blank

/-! ## 4. The failure -/

/-- The line of a failure: the word for it, and its summary if there is one. -/
theorem line_unknown_summary (message : String) :
    (¬HasText message → (Report.unknown (summary message)).line = "Status Unknown") ∧
    (HasText message → (Report.unknown (summary message)).line = "Status Unknown, " ++
      String.ofList ((summary message).toList.map fun c => if c = '|' then ' ' else c)) := by
  rw [← summary_ne_empty_iff]
  constructor
  · intro hempty
    rw [not_not.1 hempty]
    rfl
  · intro hne
    unfold Report.unknown
    rw [if_neg hne, Report.headline_eq, Option.map_some, Option.getD_some, ← String.append_assoc,
      ← String.append_assoc]
    rfl

/-- **How a failure is told.** The error stream has its text without the blanks at the end. The
    output has one line, in which the summary stands if there is one, with a space for each `|`. The
    summary is the first paragraph on one line: it begins and ends in no blank and is its own
    summary, and neither blank lines before the text nor, if there is a paragraph, a blank line
    behind it and whatever follows change it. -/
theorem fail_told (message : String) :
    let outcome := fail ⟨.accepting, .accepting⟩ message
    let s := summary message
    outcome.fault = none ∧ outcome.exits = [3] ∧
    outcome.error = String.ofList (Text.trimEnd message.toList) ++ "\n" ∧
    (∃ line, outcome.output = line ++ "\n" ∧ '\n' ∉ line.toList ∧ '|' ∉ line.toList ∧
      (¬HasText message → line = "Status Unknown") ∧
      (HasText message → line = "Status Unknown, " ++
        String.ofList (s.toList.map fun c => if c = '|' then ' ' else c))) ∧
    (∀ line, IsSummary message line ↔ line = s) ∧
    Text.trimmed s = s ∧ summary s = s ∧
    (∀ blanks : String, Text.isBlankText blanks.toList = true →
      summary (blanks ++ "\n" ++ message) = s) ∧
    (HasText message → ∀ more, BeginsBlank more →
      summary (message ++ "\n" ++ more) = s ∧
      (IsEnded message → summary (message ++ more) = s)) := by
  intro outcome s
  let line := (Report.unknown s).line
  obtain ⟨hblank, htext⟩ := line_unknown_summary message
  have hfeed : '\n' ∉ line.toList := lineFeed_not_mem_failure ⟨message, rfl⟩
  have hbar : '|' ∉ line.toList := Report.bar_not_mem_headline .unknown _
  refine ⟨rfl, rfl, rfl, ⟨line, rfl, hfeed, hbar, hblank, htext⟩, fun l => isSummary_iff,
    trimmed_summary message, summary_summary message, fun blanks h => summary_prepend h message, ?_⟩
  intro h more blank
  exact ⟨summary_append h blank, fun ended => summary_append_of_ended h ended blank⟩

/-- A paragraph of two lines, with blank lines around it. -/
theorem fail_told_indented :
    let message := "\t\n  error: a|b \r\n  tip\n"
    HasText message ∧ IsEnded message ∧ BeginsBlank " \r\nUsage: x" ∧
    Text.isBlankText " \n\t".toList = true ∧ summary message = "error: a|b tip" ∧
    (fail ⟨.accepting, .accepting⟩ message).output = "Status Unknown, error: a b tip\n" ∧
    (fail ⟨.accepting, .accepting⟩ message).error = "\t\n  error: a|b \r\n  tip\n" ∧
    summary (" \n\t" ++ "\n" ++ message) = "error: a|b tip" ∧
    summary (message ++ " \r\nUsage: x") = "error: a|b tip" := by
  intro message
  have hline : "  tip".toList ∈ Text.lines message.toList := by decide
  have htext : HasText message := ⟨_, hline, by decide⟩
  have hended : IsEnded message := ⟨"\t\n  error: a|b \r\n  tip", rfl⟩
  have hbegins : BeginsBlank " \r\nUsage: x" := by
    intro line hline
    have hfirst : (Text.lines " \r\nUsage: x".toList).head? = some [' '] := by decide
    rw [hfirst] at hline
    cases hline
    rfl
  have hsummary : summary message = "error: a|b tip" := by decide +kernel
  obtain ⟨-, -, herror, ⟨line, houtput, -, -, -, hline⟩, -, -, -, hprepend, happend⟩ :=
    fail_told message
  have hwritten : (fail ⟨.accepting, .accepting⟩ message).output =
      "Status Unknown, error: a b tip\n" := by
    rw [houtput, hline htext, hsummary]
    decide +kernel
  have hblanks : Text.isBlankText " \n\t".toList = true := by decide
  have hafter := (happend htext _ hbegins).2 hended
  exact ⟨htext, hended, hbegins, hblanks, hsummary, hwritten, herror.trans (by decide +kernel),
    (hprepend _ hblanks).trans hsummary, hafter.trans hsummary⟩

end ThresholdCheck.Run
