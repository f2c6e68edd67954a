import Mathlib.Data.List.Forall2
import ThresholdCheck.Proofs.Argument
import ThresholdCheck.Proofs.Binary64.Text
import ThresholdCheck.Proofs.Report.Line
import ThresholdCheck.Proofs.ThresholdSet.Text

/-!
# The performance data of a report lose nothing

Names are written as they are, so a space, a `;` or a `|` on the line may be one of a name. The data
are read back all the same as long as no name has a `=` in it: from the left, a name ends at the
first `=`, and what follows it ends at the first space, for no field has a space in it.

* `Record.SameData`: two records have the same name and the same fields;
* `Record.sameData_of_eq`: the text of the fields tells the fields;
* `Report.forall₂_sameData`: the tokens of records tell the records, one by one;
* **`Report.performance_lossless`**: so does the line of a report.
-/

namespace ThresholdCheck

/-! ## 1. Fields that may be absent -/

theorem Scale.token_injective : Function.Injective Scale.token := by
  intro s t h
  have hs := Scale.ofText?_token s
  rw [h, Scale.ofText?_token] at hs
  exact (Option.some.inj hs).symm

theorem Scale.token_ne_empty (s : Scale) : s.token ≠ "" := by
  cases s <;> decide

/-- No number ends in a character of a unit. -/
theorem Scale.isEndChar_token (s : Scale) : ∀ c ∈ s.token.toList, Binary64.isEndChar c = false := by
  have hall : (s.token.toList.all fun c => !Binary64.isEndChar c) = true := by
    cases s <;> decide
  intro c hc
  simpa using List.all_eq_true.1 hall c hc

/-- What is written of a field that may be absent tells it, if nothing is written of an absent one
    only. -/
theorem eq_of_getD_eq {α : Type} {write : α → String} (hwrite : Function.Injective write)
    {x y : Option α} (hx : ∀ a, x = some a → write a ≠ "") (hy : ∀ a, y = some a → write a ≠ "")
    (h : (x.map write).getD "" = (y.map write).getD "") : x = y := by
  cases x with
  | none =>
    cases y with
    | none => rfl
    | some b => exact absurd h.symm (hy b rfl)
  | some a =>
    cases y with
    | none => exact absurd h (hx a rfl)
    | some b => rw [hwrite h]

/-- What is written of a violated range tells whether there is one, and which text it has. -/
theorem Range.eq_of_getD_eq {matched other : Option String}
    (hmatched : ∀ raw, matched = some raw → Range.IsText raw)
    (hother : ∀ raw, other = some raw → Range.IsText raw)
    (h : matched.getD "" = other.getD "") : matched = other := by
  have hmap : (matched.map id).getD "" = (other.map id).getD "" := by
    rw [Option.map_id]
    exact h
  exact ThresholdCheck.eq_of_getD_eq Function.injective_id
    (fun raw hraw => (hmatched raw hraw).1) (fun raw hraw => (hother raw hraw).1) hmap

namespace Record

theorem field_injective : Function.Injective field := by
  intro x y h
  exact eq_of_getD_eq Binary64.text_injective (fun a _ => a.text_ne_empty)
    (fun a _ => a.text_ne_empty) h

/-! ## 2. One record -/

/-- The same name and the same fields. The state and the slot are not among them. -/
structure SameData (r s : Record) : Prop where
  name : r.name = s.name
  value : r.value = s.value
  scale : r.scale = s.scale
  warning : r.warning = s.warning
  critical : r.critical = s.critical
  min : r.min = s.min
  max : r.max = s.max

/-- What is written after the name. -/
def fieldChars (r : Record) : List Char := [';'].intercalate (r.fields.map String.toList)

/-- The value is read off the field that it shares with the unit. -/
theorem numberChars_reading {r : Record} (h : r.value ≠ .nan) :
    Binary64.numberChars r.reading.toList = r.value.toChars := by
  have hunit : ∀ c ∈ ((r.scale.map Scale.token).getD "").toList,
      Binary64.isEndChar c = false := by
    cases r.scale with
    | none => exact fun c hc => absurd hc List.not_mem_nil
    | some s => exact s.isEndChar_token
  unfold reading
  rw [String.toList_append, Binary64.toList_text]
  exact Binary64.numberChars_append h hunit

/-- **The field that value and unit share tells both.** -/
theorem eq_of_reading_eq {r s : Record} (hr : r.value ≠ .nan) (hs : s.value ≠ .nan)
    (h : r.reading = s.reading) : r.value = s.value ∧ r.scale = s.scale := by
  have hvalue : r.value = s.value := by
    apply Binary64.toChars_injective
    rw [← numberChars_reading hr, ← numberChars_reading hs, h]
  refine ⟨hvalue, ?_⟩
  unfold reading at h
  rw [hvalue, String.append_right_inj] at h
  exact eq_of_getD_eq Scale.token_injective (fun u _ => u.token_ne_empty)
    (fun u _ => u.token_ne_empty) h

/-- No field of a legible record has a `;` in it, so the fields come apart. -/
theorem splitOn_fieldChars {r : Record} (h : r.Legible) :
    r.fieldChars.splitOn ';' = r.fields.map String.toList := by
  refine List.splitOn_intercalate ';' ?_ (List.cons_ne_nil _ _)
  intro part hpart hsep
  obtain ⟨f, hf, rfl⟩ := List.mem_map.1 hpart
  exact absurd (fields_chars h f hf ';' hsep) (by decide)

/-- **What is written after the names of two records tells whether their fields are the same.** -/
theorem sameData_of_eq {r s : Record} (hr : r.Legible) (hs : s.Legible) (hrv : r.value ≠ .nan)
    (hsv : s.value ≠ .nan) (hname : r.name = s.name) (h : r.fieldChars = s.fieldChars) :
    r.SameData s := by
  have hfields : r.fields.map String.toList = s.fields.map String.toList := by
    rw [← splitOn_fieldChars hr, ← splitOn_fieldChars hs, h]
  have hsame : r.fields = s.fields :=
    List.map_injective_iff.2 (fun _ _ => String.toList_inj.1) hfields
  simp only [fields, List.cons.injEq, and_true] at hsame
  obtain ⟨hreading, hwarning, hcritical, hmin, hmax⟩ := hsame
  obtain ⟨hvalue, hscale⟩ := eq_of_reading_eq hrv hsv hreading
  exact ⟨hname, hvalue, hscale, Range.eq_of_getD_eq hr.1 hs.1 hwarning,
    Range.eq_of_getD_eq hr.2 hs.2 hcritical, field_injective hmin, field_injective hmax⟩

/-- No field has a space in it. -/
theorem space_not_mem_fieldChars {r : Record} (h : r.Legible) : ' ' ∉ r.fieldChars := by
  unfold fieldChars
  rw [Text.mem_intercalate_iff (by decide)]
  intro hmem
  obtain ⟨part, hpart, hspace⟩ := hmem
  obtain ⟨f, hf, rfl⟩ := List.mem_map.1 hpart
  exact absurd (fields_chars h f hf ' ' hspace) (by decide)

/-! ## 3. Records as they are given -/

/-- The text of a range that some run of edits leaves in a set. -/
def IsRangeText (raw : String) : Prop :=
  ∃ mode edits, ∃ range ∈ ((ThresholdSet.empty mode).edited edits).ranges, range.raw = raw

/-- A record as the command line gives it: its name has no `=` in it, its value is a number, and the
    ranges that it violated are such as can be set. -/
structure Regular (r : Record) : Prop where
  name : '=' ∉ r.name.toList
  number : r.value.isNaN = false
  warning : ∀ raw, r.warning = some raw → IsRangeText raw
  critical : ∀ raw, r.critical = some raw → IsRangeText raw

theorem IsRangeText.isText {raw : String} (h : IsRangeText raw) : Range.IsText raw := by
  obtain ⟨mode, edits, range, hrange, rfl⟩ := h
  exact ((ThresholdSet.edited_readable mode edits).ranges range hrange).raw_isText

theorem Regular.legible {r : Record} (h : r.Regular) : r.Legible :=
  ⟨fun raw hraw => (h.warning raw hraw).isText, fun raw hraw => (h.critical raw hraw).isText⟩

theorem Regular.value_ne_nan {r : Record} (h : r.Regular) : r.value ≠ .nan := by
  intro hnan
  have hnumber := h.number
  rw [hnan] at hnumber
  cases hnumber

end Record

namespace Report

/-! ## 4. All records -/

/-- What is written of records that come after another one. -/
def following (rs : List Record) : List Char := if rs = [] then [] else ' ' :: tokens rs

theorem tokens_cons (r : Record) (rs : List Record) :
    tokens (r :: rs) = r.name.toList ++ '=' :: (r.fieldChars ++ following rs) := by
  have hone : r.token.toList = r.name.toList ++ '=' :: r.fieldChars := r.toList_token
  unfold tokens following
  rw [List.map_cons]
  by_cases hrs : rs = []
  · rw [if_pos hrs, hrs, List.map_nil, List.intercalate_singleton, hone, List.append_nil]
  · rw [if_neg hrs, List.intercalate_cons_of_ne_nil (by simpa using hrs), hone]
    simp [tokens]

/-- The name of the first record ends at the first `=`. -/
theorem cut_tokens {r : Record} (h : '=' ∉ r.name.toList) (rs : List Record) :
    Text.cut '=' (tokens (r :: rs)) = some (r.name.toList, r.fieldChars ++ following rs) :=
  Text.cut_eq_some_iff.2 ⟨tokens_cons r rs, h⟩

/-- Its fields end at the first space after that, or with the data. -/
theorem cut_fieldChars {r : Record} (h : r.Legible) (rs : List Record) :
    Text.cut ' ' (r.fieldChars ++ following rs) =
      if rs = [] then none else some (r.fieldChars, tokens rs) := by
  unfold following
  by_cases hrs : rs = []
  · rw [if_pos hrs, if_pos hrs, List.append_nil, Text.cut_eq_none_iff]
    exact Record.space_not_mem_fieldChars h
  · rw [if_neg hrs, if_neg hrs, Text.cut_eq_some_iff]
    exact ⟨rfl, Record.space_not_mem_fieldChars h⟩

/-- What follows the names of two records tells their fields, and what comes after them. -/
theorem fieldChars_following_inj {r s : Record} (hr : r.Legible) (hs : s.Legible)
    {rs ss : List Record} (h : r.fieldChars ++ following rs = s.fieldChars ++ following ss) :
    r.fieldChars = s.fieldChars ∧ (rs = [] ↔ ss = []) ∧ tokens rs = tokens ss := by
  have hcut := congrArg (Text.cut ' ') h
  rw [cut_fieldChars hr, cut_fieldChars hs] at hcut
  by_cases hrs : rs = []
  · by_cases hss : ss = []
    · rw [hrs, hss] at h ⊢
      exact ⟨List.append_cancel_right h, Iff.rfl, rfl⟩
    · rw [if_pos hrs, if_neg hss] at hcut
      cases hcut
  · by_cases hss : ss = []
    · rw [if_neg hrs, if_pos hss] at hcut
      cases hcut
    · rw [if_neg hrs, if_neg hss, Option.some.injEq, Prod.mk.injEq] at hcut
      exact ⟨hcut.1, iff_of_false hrs hss, hcut.2⟩

/-- **The tokens of records tell the records, one by one.** -/
theorem forall₂_sameData {rs ss : List Record} (hrs : ∀ r ∈ rs, r.Regular)
    (hss : ∀ s ∈ ss, s.Regular) (hempty : rs = [] ↔ ss = []) (h : tokens rs = tokens ss) :
    List.Forall₂ Record.SameData rs ss := by
  -- one name and its fields are read off both, and what is left are the tokens of the rest
  induction rs generalizing ss with
  | nil =>
    rw [hempty.1 rfl]
    exact List.Forall₂.nil
  | cons r rs ih =>
    cases ss with
    | nil => exact absurd (hempty.2 rfl) (List.cons_ne_nil _ _)
    | cons s ss =>
      rw [List.forall_mem_cons] at hrs hss
      obtain ⟨hr, hrs⟩ := hrs
      obtain ⟨hs, hss⟩ := hss
      have hcut := congrArg (Text.cut '=') h
      rw [cut_tokens hr.name, cut_tokens hs.name, Option.some.injEq, Prod.mk.injEq] at hcut
      obtain ⟨hname, hrest⟩ := hcut
      obtain ⟨hfields, hempty, htokens⟩ := fieldChars_following_inj hr.legible hs.legible hrest
      have hfirst : r.SameData s := Record.sameData_of_eq hr.legible hs.legible hr.value_ne_nan
        hs.value_ne_nan (String.toList_inj.1 hname) hfields
      exact List.Forall₂.cons hfirst (ih hrs hss hempty htokens)

/-! ## 5. The line -/

/-- **The performance data of a line tell the records that they were written of**, whatever the
    messages before them: how many there are, and of each its name, its value, its unit, the ranges
    that it violated, and its least and largest value. All that is asked of names is that they have
    no `=` in them, and no name that was read of a command line has one. -/
theorem performance_lossless :
    (∀ text a, Argument.parse text = .ok a → '=' ∉ a.name.toList) ∧
    ∀ (rs ss : List Record) (message message' : Option String),
      (∀ r ∈ rs, r.Regular) → (∀ s ∈ ss, s.Regular) →
      performanceOf (ofRecords rs message).line = performanceOf (ofRecords ss message').line →
      rs.length = ss.length ∧ List.Forall₂ Record.SameData rs ss := by
  refine ⟨fun text a hread => Argument.equals_not_mem_name hread, ?_⟩
  intro rs ss message message' hrs hss h
  rw [performanceOf_eq, performanceOf_eq] at h
  have hsame : (rs = [] ↔ ss = []) ∧ tokens rs = tokens ss := by
    by_cases hr : rs = []
    · by_cases hs : ss = []
      · rw [hr, hs]
        exact ⟨Iff.rfl, rfl⟩
      · rw [if_pos hr, if_neg hs] at h
        cases h
    · by_cases hs : ss = []
      · rw [if_neg hr, if_pos hs] at h
        cases h
      · rw [if_neg hr, if_neg hs] at h
        exact ⟨iff_of_false hr hs, Option.some.inj h⟩
  have hdata := forall₂_sameData hrs hss hsame.1 hsame.2
  exact ⟨hdata.length_eq, hdata⟩

/-- A name may have all separators but `=` in it. Slot and state are not written. -/
theorem performance_lossless_separators :
    let first : Record := ⟨"a b;1|2", .infinity, some .nan, none, some .milliseconds, 1, .warning,
      some "10", none⟩
    let second : Record := ⟨"10;", .zero, none, some .negInfinity, none, 1, .ok, none, none⟩
    let rs := [first, second]
    let ss := [{ first with slot := 2, state := .ok }, { second with slot := 3 }]
    (∀ r ∈ rs, r.Regular) ∧ (∀ s ∈ ss, s.Regular) ∧
    performanceOf (ofRecords rs (some "up|down")).line = performanceOf (ofRecords ss none).line ∧
    List.Forall₂ Record.SameData rs ss := by
  intro first second rs ss
  have hten : Record.IsRangeText "10" := ⟨.zeroFloor, [.append "10"], by decide +kernel⟩
  have hwarning : ∀ raw, some "10" = some raw → Record.IsRangeText raw := by
    intro raw hraw
    cases hraw
    exact hten
  have hnone : ∀ raw, none = some raw → Record.IsRangeText raw := fun raw hraw => nomatch hraw
  have hrs : ∀ r ∈ rs, r.Regular := by
    simp only [rs, List.forall_mem_cons]
    exact ⟨⟨by decide, rfl, hwarning, hnone⟩, ⟨by decide, rfl, hnone, hnone⟩,
      fun r hr => absurd hr List.not_mem_nil⟩
  have hss : ∀ s ∈ ss, s.Regular := by
    simp only [ss, List.forall_mem_cons]
    exact ⟨⟨by decide, rfl, hwarning, hnone⟩, ⟨by decide, rfl, hnone, hnone⟩,
      fun s hs => absurd hs List.not_mem_nil⟩
  have hdata : performanceOf (ofRecords rs (some "up|down")).line =
      performanceOf (ofRecords ss none).line := by decide +kernel
  exact ⟨hrs, hss, hdata, (performance_lossless.2 rs ss _ _ hrs hss hdata).2⟩

end Report

end ThresholdCheck
