import Mathlib.Logic.Basic
import ThresholdCheck.Proofs.Record
import ThresholdCheck.Proofs.Report

/-!
# What stands on the line of a report

The line is read by its separators: it ends at a line feed, its performance data begin after the
first `|`, and a space stands between two tokens. A message is made fit for that as far as `|` goes;
the name of a record is written as it is.

* `leadOf_line`: before its first `|` stand status and message;
* `cut_line`: its first `|`, if it has one, is the one before the performance data;
* **`lineFeed_mem_line_iff`**: a line feed on the line is one of the message or of a name;
* `OneTokenPerRecord`: the performance data come apart into one token for each record;
* **`oneTokenPerRecord_iff`**: they do exactly if no name has a separator in it.
-/

namespace ThresholdCheck.Report

variable {state : Status} {message : Option String} {rs : List Record}

/-! ## 1. Up to the performance data -/

theorem headline_eq (state : Status) (message : Option String) :
    headline state message =
      "Status " ++ (state.word ++ (message.map fun m => ", " ++ sanitize m).getD "") := by
  rw [headline_eq_append, String.append_assoc]

theorem toList_headline (state : Status) (message : Option String) :
    (headline state message).toList = "Status ".toList ++ (state.word.toList ++
      (message.map fun m => ", ".toList ++ (sanitize m).toList).getD []) := by
  rw [headline_eq, String.toList_append, String.toList_append]
  cases message with
  | none => rfl
  | some m =>
    show _ ++ (_ ++ (", " ++ sanitize m).toList) = _ ++ (_ ++ (", ".toList ++ (sanitize m).toList))
    rw [String.toList_append]

/-- The first `|` of the line is the one before the performance data. -/
theorem bar_not_mem_headline (state : Status) (message : Option String) :
    '|' ∉ (headline state message).toList := by
  have hword : '|' ∉ state.word.toList := by cases state <;> decide
  rw [toList_headline, List.mem_append, List.mem_append, not_or, not_or]
  refine ⟨by decide, hword, ?_⟩
  cases message with
  | none => exact List.not_mem_nil
  | some m =>
    show '|' ∉ ", ".toList ++ (sanitize m).toList
    rw [List.mem_append, not_or]
    exact ⟨by decide, bar_not_mem_sanitize m⟩

theorem lineFeed_mem_headline_iff :
    '\n' ∈ (headline state message).toList ↔ ∃ m, message = some m ∧ '\n' ∈ m.toList := by
  have hstatus : '\n' ∉ "Status ".toList := by decide
  have hword : '\n' ∉ state.word.toList := by cases state <;> decide
  rw [toList_headline, List.mem_append, List.mem_append, or_iff_right hstatus,
    or_iff_right hword]
  cases message with
  | none => simp
  | some m =>
    have hcomma : '\n' ∉ ", ".toList := by decide
    show '\n' ∈ ", ".toList ++ (sanitize m).toList ↔ _
    rw [List.mem_append, or_iff_right hcomma, mem_sanitize_iff (by decide) (by decide)]
    simp

/-! ## 2. The performance data -/

/-- The tokens of records with a space between two. -/
def tokens (rs : List Record) : List Char := [' '].intercalate (rs.map fun r => r.token.toList)

theorem toList_performance (hne : rs ≠ []) : (performance rs).toList = '|' :: tokens rs := by
  cases rs with
  | nil => exact absurd rfl hne
  | cons r rs =>
    unfold performance tokens
    rw [String.toList_append, String.toList_intercalate, List.map_map]
    rfl

/-- A character that parts tokens or lines comes from a name. -/
theorem mem_tokens_iff (legible : ∀ r ∈ rs, r.Legible) {c : Char} (hblank : c ≠ ' ')
    (hfield : Record.isFieldChar c = false) (heq : c ≠ '=') (hsep : c ≠ ';') :
    c ∈ tokens rs ↔ ∃ r ∈ rs, c ∈ r.name.toList := by
  unfold tokens
  rw [Text.mem_intercalate_iff hblank]
  simp only [List.mem_map, exists_exists_and_eq_and]
  exact exists_congr fun r => and_congr_right fun hr =>
    Record.mem_token_iff (legible r hr) hfield heq hsep

/-! ## 3. One line -/

theorem toList_line (message : Option String) (rs : List Record) :
    (ofRecords rs message).line.toList =
      (headline (overall rs) message).toList ++ (performance rs).toList :=
  String.toList_append

/-- The text of a line before its first `|`; all of it if there is none. -/
def leadOf (line : String) : List Char := line.toList.takeWhile fun c => c != '|'

theorem leadOf_line (message : Option String) (rs : List Record) :
    leadOf (ofRecords rs message).line = (headline (overall rs) message).toList := by
  have hlead : ∀ c ∈ (headline (overall rs) message).toList, (c != '|') = true := by
    intro c hc
    rw [bne_iff_ne]
    exact fun heq => bar_not_mem_headline _ _ (heq ▸ hc)
  unfold leadOf
  rw [toList_line, List.takeWhile_append_of_pos hlead]
  cases rs with
  | nil => exact List.append_nil _
  | cons r rs =>
    rw [toList_performance (List.cons_ne_nil _ _)]
    exact List.append_nil _

/-- **A line feed on the line is one of the message or of a name.** -/
theorem lineFeed_mem_line_iff (legible : ∀ r ∈ rs, r.Legible) :
    '\n' ∈ (ofRecords rs message).line.toList ↔
      (∃ m, message = some m ∧ '\n' ∈ m.toList) ∨ ∃ r ∈ rs, '\n' ∈ r.name.toList := by
  rw [toList_line, List.mem_append, lineFeed_mem_headline_iff]
  refine or_congr_right ?_
  by_cases hne : rs = []
  · subst hne
    exact iff_of_false List.not_mem_nil fun ⟨r, hr, _⟩ => List.not_mem_nil hr
  · have hbar : '\n' ≠ '|' := by decide
    rw [toList_performance hne, List.mem_cons, or_iff_right hbar]
    exact mem_tokens_iff legible (by decide) (by decide) (by decide) (by decide)

/-! ## 4. One token for each record -/

/-- The text of a line after its first `|`, if it has one. -/
def performanceOf (line : String) : Option (List Char) := (Text.cut '|' line.toList).map Prod.snd

/-- The performance data of a line have no `|` in them, and come apart at the spaces into the tokens
    of the records, one for each. -/
def OneTokenPerRecord (line : String) (rs : List Record) : Prop :=
  ∃ data, performanceOf line = some data ∧ '|' ∉ data ∧
    data.splitOn ' ' = rs.map fun r => r.token.toList

/-- The line is cut at the `|` before the performance data, if there are records. -/
theorem cut_line (message : Option String) (rs : List Record) :
    Text.cut '|' (ofRecords rs message).line.toList =
      if rs = [] then none else some ((headline (overall rs) message).toList, tokens rs) := by
  by_cases hrs : rs = []
  · rw [if_pos hrs, Text.cut_eq_none_iff, toList_line, List.mem_append, not_or, hrs]
    exact ⟨bar_not_mem_headline _ _, List.not_mem_nil⟩
  · rw [if_neg hrs, Text.cut_eq_some_iff, toList_line, toList_performance hrs]
    exact ⟨rfl, bar_not_mem_headline _ _⟩

/-- There are performance data exactly if there are records, and then they are the tokens. -/
theorem performanceOf_eq (message : Option String) (rs : List Record) :
    performanceOf (ofRecords rs message).line = if rs = [] then none else some (tokens rs) := by
  unfold performanceOf
  rw [cut_line, apply_ite (Option.map Prod.snd)]
  rfl

/-- **The performance data come apart into one token for each record exactly if no name has a
    separator in it.** -/
theorem oneTokenPerRecord_iff (legible : ∀ r ∈ rs, r.Legible) (hne : rs ≠ [])
    (message : Option String) :
    OneTokenPerRecord (ofRecords rs message).line rs ↔
      ∀ r ∈ rs, '|' ∉ r.name.toList ∧ ' ' ∉ r.name.toList := by
  have hbar : '|' ∉ tokens rs ↔ ∀ r ∈ rs, '|' ∉ r.name.toList := by
    rw [mem_tokens_iff legible (by decide) (by decide) (by decide) (by decide)]
    simp only [not_exists, not_and]
  have hblank : (tokens rs).splitOn ' ' = (rs.map fun r => r.token.toList) ↔
      ∀ r ∈ rs, ' ' ∉ r.name.toList := by
    unfold tokens
    rw [Text.splitOn_intercalate_iff (by simpa using hne), List.forall_mem_map]
    exact forall₂_congr fun r hr =>
      not_congr (Record.mem_token_iff (legible r hr) (by decide) (by decide) (by decide))
  unfold OneTokenPerRecord
  rw [performanceOf_eq, if_neg hne]
  simp only [Option.some.injEq, exists_eq_left', hbar, hblank]
  constructor
  · intro h r hr
    obtain ⟨hbars, hblanks⟩ := h
    exact ⟨hbars r hr, hblanks r hr⟩
  · intro h
    exact ⟨fun r hr => (h r hr).1, fun r hr => (h r hr).2⟩

end ThresholdCheck.Report
