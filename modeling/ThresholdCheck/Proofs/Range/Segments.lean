import ThresholdCheck.Proofs.Fallible
import ThresholdCheck.Proofs.Text.Parts
import ThresholdCheck.Proofs.Text.Trimming
import ThresholdCheck.Range.Parsing

/-!
# Lists of ranges: segments and what is read of them

* `segments_append`, `segments_intercalate`: what is joined by commas has the segments of its parts;
  a text without a comma is its own only segment (`segments_of_not_mem`);
* **`parseList_eq_ok_iff`**: a list is read exactly if each of its segments is, so each of its
  ranges comes from a segment (`exists_segment_of_parseList`), and there is one more than there are
  commas (`length_of_parseList`);
* **`parseList_append_iff`**: two lists with a comma between them are read exactly if each of them
  is, and then as the ranges of both;
* `parseList_intercalate`: texts without commas, not all of them blank, are the segments of their
  list.
-/

namespace ThresholdCheck.Range

open Text

/-! ## 1. Segments -/

/-- **A comma parts the segments on its two sides.** -/
theorem segments_append (a b : String) : segments (a ++ "," ++ b) = segments a ++ segments b := by
  have htext : (a ++ "," ++ b).toList = a.toList ++ ',' :: b.toList := by simp
  unfold segments
  rw [htext, List.splitOn_append_cons_self, List.map_append]

/-- What is joined by commas has the segments of its parts. -/
theorem segments_intercalate {texts : List String} (h : texts ≠ []) :
    segments (",".intercalate texts) = texts.flatMap segments := by
  induction texts with
  | nil => exact absurd rfl h
  | cons text texts ih =>
    cases texts with
    | nil => simp
    | cons next texts =>
      have hjoined : ",".intercalate (text :: next :: texts) =
          text ++ "," ++ ",".intercalate (next :: texts) := String.intercalate_cons_cons
      have hrest := ih (List.cons_ne_nil next texts)
      rw [hjoined, segments_append, hrest, List.flatMap_cons (x := text)]

/-- A text without a comma is its own only segment. -/
theorem segments_of_not_mem {text : String} (comma : ',' ∉ text.toList) :
    segments text = [text] := by
  unfold segments
  rw [List.splitOn_eq_singleton comma, List.map_singleton, String.ofList_toList]

theorem segments_of_blank {text : String} (h : isBlankText text.toList = true) :
    segments text = [text] := by
  refine segments_of_not_mem fun hmem => ?_
  have hblank := List.all_eq_true.1 h ',' hmem
  cases hblank

/-! ## 2. What is read -/

theorem parseSegment_of_not_blank (mode : Mode) (whole : String) {segment : String}
    (h : isBlankText segment.toList = false) :
    parseSegment mode whole segment = parse mode segment := by
  unfold parseSegment
  rw [if_neg (by rw [h]; decide)]

theorem parse_of_blank {mode : Mode} {text : String} (h : isBlankText text.toList = true) :
    parse mode text = .error (.range text .empty) := by
  unfold parse
  rw [trim_eq_nil_iff.2 h]
  rfl

/-- A segment is read exactly as a range is; only the faults differ. -/
theorem parseSegment_eq_ok_iff {mode : Mode} {whole segment : String} {r : Range} :
    parseSegment mode whole segment = .ok r ↔ parse mode segment = .ok r := by
  unfold parseSegment
  by_cases h : isBlankText segment.toList = true
  · rw [if_pos h, parse_of_blank h]
    simp
  · rw [if_neg h]

/-- **A list is read exactly if each of its segments is, and then as the ranges of these.** -/
theorem parseList_eq_ok_iff {mode : Mode} {text : String} {rs : List Range} :
    parseList mode text = .ok rs ↔
      List.Forall₂ (fun segment r => parse mode segment = .ok r) (segments text) rs := by
  unfold parseList
  by_cases h : isBlankText text.toList = true
  · -- the only segment of a blank list is blank
    rw [if_pos h, segments_of_blank h]
    simp [List.forall₂_cons_left_iff, parse_of_blank h]
  · rw [if_neg h, mapM_eq_ok_iff]
    simp only [parseSegment_eq_ok_iff]

/-- Each range of a list comes from a segment. -/
theorem exists_segment_of_parseList {mode : Mode} {text : String} {rs : List Range}
    (h : parseList mode text = .ok rs) :
    ∀ r ∈ rs, ∃ segment ∈ segments text, parse mode segment = .ok r :=
  exists_of_mapM_ok (mapM_eq_ok_iff.2 (parseList_eq_ok_iff.1 h))

/-- There is one range more than there are commas. -/
theorem length_of_parseList {mode : Mode} {text : String} {rs : List Range}
    (h : parseList mode text = .ok rs) : rs.length = text.toList.count ',' + 1 := by
  have hlength := (parseList_eq_ok_iff.1 h).length_eq
  rw [← hlength, segments, List.length_map, length_splitOn]

/-! ## 3. Lists that are joined -/

/-- **Two lists with a comma between them are read exactly if each of them is, and then as the ranges
    of both.** -/
theorem parseList_append_iff {mode : Mode} {a b : String} {rs : List Range} :
    parseList mode (a ++ "," ++ b) = .ok rs ↔
      ∃ front back, parseList mode a = .ok front ∧ parseList mode b = .ok back ∧
        rs = front ++ back := by
  simp only [parseList_eq_ok_iff, ← mapM_eq_ok_iff]
  rw [segments_append, mapM_append_eq_ok_iff]

/-- A list with an entry that is not blank is not blank. -/
theorem isBlankText_intercalate {texts : List String} {text : String} (h : text ∈ texts)
    (blank : isBlankText text.toList = false) :
    isBlankText (",".intercalate texts).toList = false := by
  rw [String.toList_intercalate]
  induction texts with
  | nil => cases h
  | cons first rest ih =>
    by_cases hrest : rest = []
    · subst hrest
      rw [List.mem_singleton.1 h] at blank
      rw [List.map_singleton, List.intercalate_singleton]
      exact blank
    · rw [List.map_cons, List.intercalate_cons_of_ne_nil (by simpa using hrest)]
      unfold isBlankText at *
      rw [List.all_append, List.all_append]
      rcases List.mem_cons.1 h with rfl | hmem
      · rw [blank]
        rfl
      · rw [ih hmem, Bool.and_false]

/-- **Texts without commas are the segments of their list.** -/
theorem parseList_intercalate (mode : Mode) {texts : List String} (h : texts ≠ [])
    (comma : ∀ text ∈ texts, ',' ∉ text.toList)
    (blank : ∃ text ∈ texts, isBlankText text.toList = false) :
    parseList mode (",".intercalate texts) =
      texts.mapM (parseSegment mode (",".intercalate texts)) := by
  unfold parseList
  obtain ⟨text, hmem, htext⟩ := blank
  have hsegments : segments (",".intercalate texts) = texts := by
    rw [segments_intercalate h, List.flatMap_congr fun text h => segments_of_not_mem (comma text h),
      List.flatMap_singleton']
  rw [if_neg (by rw [isBlankText_intercalate hmem htext]; decide), hsegments]

end ThresholdCheck.Range
