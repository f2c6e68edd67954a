import ThresholdCheck.Report

/-!
# What a report is made of

* `Status.foldl_worse`: the worst of statuses that are known is the worst one that occurs;
* **`Report.overall_of_known`**: so it is with the states of records that are known, in whatever
  order they stand (`Report.overall_perm`);
* `Report.getElem?_sanitize`: a message is made fit for the line by a space for each `|`;
* `Report.sanitize_sanitize`: a message that is fit for the line is left as it is, so a line is the
  same whether its message was made fit before or not (`Report.headline_sanitize`);
* `Report.bar_not_mem_sanitize`, `Report.mem_sanitize_iff`: the characters of such a message;
* `Report.performance_eq`: a `|` and the tokens, or nothing.
-/

namespace ThresholdCheck

/-! ## 1. The status -/

theorem Status.foldl_worse {states : List Status} (known : .unknown ∉ states) {start : Status}
    (hstart : start ≠ .unknown) :
    states.foldl Status.worse start =
      if start = .critical ∨ .critical ∈ states then .critical
      else if start = .warning ∨ .warning ∈ states then .warning
      else .ok := by
  induction states generalizing start with
  | nil =>
    cases start with
    | ok => rfl
    | warning => rfl
    | critical => rfl
    | unknown => exact absurd rfl hstart
  | cons state states ih =>
    rw [List.mem_cons, not_or] at known
    -- the statuses of records are closed under the worse of two
    have hnext : Status.worse start state ≠ .unknown := by
      unfold Status.worse
      split
      · exact Ne.symm known.1
      · exact hstart
    rw [List.foldl_cons, ih known.2 hnext]
    cases start with
    | unknown => exact absurd rfl hstart
    | ok => cases state <;> simp_all [Status.worse, Status.exitCode]
    | warning => cases state <;> simp_all [Status.worse, Status.exitCode]
    | critical => cases state <;> simp_all [Status.worse, Status.exitCode]

/-- Only the status unknown has exit code 3. -/
theorem Status.exitCode_ne_three {s : Status} (h : s ≠ .unknown) : s.exitCode ≠ 3 := by
  cases s with
  | unknown => exact absurd rfl h
  | ok => decide
  | warning => decide
  | critical => decide

theorem Status.exitCode_le_three (s : Status) : s.exitCode ≤ 3 := by
  cases s <;> decide

namespace Report

/-- **The status of a report is the worst state that its records have.** -/
theorem overall_of_known {rs : List Record} (known : ∀ r ∈ rs, r.state ≠ .unknown) :
    overall rs =
      if ∃ r ∈ rs, r.state = .critical then .critical
      else if ∃ r ∈ rs, r.state = .warning then .warning
      else .ok := by
  have hknown : Status.unknown ∉ rs.map Record.state := by
    intro hmem
    obtain ⟨r, hr, hstate⟩ := List.mem_map.1 hmem
    exact known r hr hstate
  unfold overall Status.worst
  rw [Status.foldl_worse hknown (by decide)]
  simp only [List.mem_map, reduceCtorEq, false_or]

/-- The status of a report does not depend on the order of its records. -/
theorem overall_perm {rs rs' : List Record} (perm : rs'.Perm rs)
    (known : ∀ r ∈ rs, r.state ≠ .unknown) : overall rs' = overall rs := by
  have hknown : ∀ r ∈ rs', r.state ≠ .unknown := fun r hr => known r (perm.mem_iff.1 hr)
  rw [overall_of_known hknown, overall_of_known known]
  simp only [perm.mem_iff]

/-! ## 2. The message -/

theorem toList_sanitize (m : String) :
    (sanitize m).toList = m.toList.map fun c => if c = '|' then ' ' else c :=
  String.toList_ofList

/-- The message has a space for each `|`, and every other character in its place. -/
theorem getElem?_sanitize (m : String) (i : Nat) :
    (sanitize m).toList[i]? = m.toList[i]?.map fun c => if c = '|' then ' ' else c := by
  rw [toList_sanitize, List.getElem?_map]

theorem sanitize_sanitize (m : String) :
    sanitize (sanitize m) = sanitize m := by
  rw [← String.toList_inj, toList_sanitize, toList_sanitize, List.map_map]
  refine List.map_congr_left fun c _ => ?_
  rw [Function.comp_apply]
  by_cases hc : c = '|'
  · rw [if_pos hc]
    decide
  · rw [if_neg hc, if_neg hc]

/-- A message that was made fit has no `|` in it. -/
theorem bar_not_mem_sanitize (m : String) : '|' ∉ (sanitize m).toList := by
  rw [toList_sanitize, List.mem_map]
  intro h
  obtain ⟨c, -, hc⟩ := h
  by_cases hbar : c = '|'
  · rw [if_pos hbar] at hc
    exact absurd hc (by decide)
  · rw [if_neg hbar] at hc
    exact hbar hc

/-- Apart from the space that is put in and the `|` that is taken out, its characters stay. -/
theorem mem_sanitize_iff {c : Char} (hbar : c ≠ '|') (hblank : c ≠ ' ') {m : String} :
    c ∈ (sanitize m).toList ↔ c ∈ m.toList := by
  rw [toList_sanitize, List.mem_map]
  constructor
  · intro h
    obtain ⟨d, hd, hc⟩ := h
    by_cases hdbar : d = '|'
    · rw [if_pos hdbar] at hc
      exact absurd hc.symm hblank
    · rw [if_neg hdbar] at hc
      rw [← hc]
      exact hd
  · intro hc
    exact ⟨c, hc, if_neg hbar⟩

theorem headline_eq_append (state : Status) (message : Option String) :
    headline state message =
      "Status " ++ state.word ++ (message.map fun m => ", " ++ sanitize m).getD "" := by
  cases message with
  | none => rfl
  | some m => rfl

theorem headline_sanitize (state : Status) (message : Option String) :
    headline state (message.map sanitize) = headline state message := by
  cases message with
  | none => rfl
  | some m =>
    show "Status " ++ state.word ++ (", " ++ sanitize (sanitize m)) = _
    rw [sanitize_sanitize]
    rfl

/-! ## 3. The performance data -/

theorem performance_eq (rs : List Record) :
    performance rs =
      if rs = [] then "" else "|" ++ " ".intercalate (rs.map Record.token) := by
  cases rs with
  | nil => rfl
  | cons r rs => rfl

end Report

end ThresholdCheck
