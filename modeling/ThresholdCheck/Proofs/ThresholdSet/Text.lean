import ThresholdCheck.Proofs.Range.Rendering
import ThresholdCheck.Proofs.Range.Segments
import ThresholdCheck.Proofs.ThresholdSet.Edit

/-!
# The text of a threshold set loses nothing

A range is known by its text, whether it was read or made of bounds. The invariant of all edits is
that the text of each range is written by the rules and denotes the range (`Readable`).

* `readable_of_parse`, `readable_ofBounds`: both producers make readable ranges;
* `edited_readable`: so a run of edits leaves only readable ranges;
* **`edited_text_lossless`**: the text of a set that was edited reads back as the set.
-/

namespace ThresholdCheck

open Text (isBlank isBlankText)

/-! ## 1. Readable ranges -/

namespace Range

/-- The text of the range is written by the rules and denotes the range, up to the sign of zero. -/
def Readable (mode : Mode) (r : Range) : Prop :=
  ∃ e : Expression, e.chars = r.raw.toList ∧ (e.denote mode).equals r = true

/-- A range that was read is readable. -/
theorem readable_of_parse {mode : Mode} {text : String} {r : Range} (h : parse mode text = .ok r) :
    Readable mode r := by
  obtain ⟨e, -, rfl⟩ := parse_eq_ok_iff.1 h
  obtain ⟨hb, ht⟩ := e.body.bounds_ne_nan mode
  exact ⟨e, by rw [Expression.raw_denote, String.toList_ofList], equals_refl hb ht⟩

/-- A range that was made of bounds is readable. -/
theorem readable_ofBounds (mode : Mode) {bottom top : Binary64} (inverted : Bool)
    (hb : bottom ≠ .nan) (ht : top ≠ .nan) : Readable mode (ofBounds mode bottom top inverted) :=
  ⟨.ofBounds mode bottom top inverted hb ht, Expression.chars_ofBounds mode inverted hb ht,
    Expression.denote_ofBounds mode inverted hb ht⟩

namespace Readable

variable {mode : Mode} {r : Range}

theorem raw_ne_empty (h : Readable mode r) : r.raw ≠ "" := by
  obtain ⟨e, he, -⟩ := h
  intro hraw
  rw [hraw] at he
  exact e.chars_ne_nil he

theorem raw_chars (h : Readable mode r) : ∀ c ∈ r.raw.toList, c ≠ ',' ∧ isBlank c = false := by
  obtain ⟨e, he, -⟩ := h
  rw [← he]
  exact e.comma_blank_not_mem

/-- Without blanks and not empty, the text is not blank either. -/
theorem raw_not_blank (h : Readable mode r) : isBlankText r.raw.toList = false := by
  cases hcs : r.raw.toList with
  | nil => exact absurd (String.toList_eq_nil_iff.1 hcs) h.raw_ne_empty
  | cons c cs =>
    have hc := (h.raw_chars c (by rw [hcs]; exact List.mem_cons_self)).2
    unfold isBlankText
    rw [List.all_cons, hc, Bool.false_and]

theorem raw_isText (h : Readable mode r) : IsText r.raw := by
  obtain ⟨e, he, -⟩ := h
  exact Expression.isText_of_chars he

/-- The text reads as the range. -/
theorem parse_raw (h : Readable mode r) :
    ∃ r', parse mode r.raw = .ok r' ∧ r'.equals r = true := by
  obtain ⟨e, he, hsame⟩ := h
  refine ⟨e.denote mode, ?_, hsame⟩
  rw [← parse_chars, he, String.ofList_toList]

end Readable

end Range

namespace ThresholdSet

/-! ## 2. Readable sets -/

/-- Whether two sets are the same, their bounds compared as numbers. -/
def equals (s t : ThresholdSet) : Bool := s.mode == t.mode && s.ranges.isEqv t.ranges Range.equals

/-- The text of a set: the texts of its ranges. -/
def text (s : ThresholdSet) : String := ",".intercalate (s.ranges.map Range.raw)

/-- A set in a mode, with readable ranges only. -/
structure Readable (mode : Mode) (s : ThresholdSet) : Prop where
  mode_eq : s.mode = mode
  ranges : ∀ r ∈ s.ranges, r.Readable mode

/-- **A readable set reads back from its text.** -/
theorem Readable.parse_text {mode : Mode} {s : ThresholdSet} (h : Readable mode s)
    (hne : s.ranges ≠ []) : ∃ t, parse mode s.text = .ok t ∧ t.equals s = true := by
  obtain ⟨first, hfirst⟩ := List.exists_mem_of_ne_nil s.ranges hne
  have hlist : Range.parseList mode s.text =
      (s.ranges.map Range.raw).mapM (Range.parseSegment mode s.text) := by
    refine Range.parseList_intercalate mode (by simpa using hne) ?_
      ⟨first.raw, List.mem_map_of_mem hfirst, (h.ranges first hfirst).raw_not_blank⟩
    intro text htext hcomma
    obtain ⟨r, hr, rfl⟩ := List.mem_map.1 htext
    exact ((h.ranges r hr).raw_chars ',' hcomma).1 rfl
  have hread : ∀ r ∈ s.ranges, ∃ r',
      Range.parseSegment mode s.text r.raw = .ok r' ∧ r'.equals r = true := by
    intro r hr
    rw [Range.parseSegment_of_not_blank mode _ (h.ranges r hr).raw_not_blank]
    exact (h.ranges r hr).parse_raw
  obtain ⟨rs, hrs, hsame⟩ := exists_mapM_ok hread
  refine ⟨⟨mode, rs⟩, ?_, ?_⟩
  · unfold parse append
    rw [mode_empty, hlist, hrs]
    rfl
  · unfold equals
    rw [h.mode_eq, beq_self_eq_true, hsame]
    rfl

/-! ## 3. Edits keep sets readable -/

theorem readable_empty (mode : Mode) : Readable mode (empty mode) where
  mode_eq := rfl
  ranges := by
    intro r hr
    cases hr

variable {mode : Mode} {s t : ThresholdSet}

theorem Readable.append (h : Readable mode s) {text : String} (happend : s.append text = .ok t) :
    Readable mode t := by
  unfold ThresholdSet.append at happend
  obtain ⟨more, hlist, rfl⟩ := map_eq_ok happend
  refine ⟨h.mode_eq, fun r hr => ?_⟩
  rcases List.mem_append.1 hr with hr | hr
  · exact h.ranges r hr
  · obtain ⟨segment, -, hread⟩ := Range.exists_segment_of_parseList hlist r hr
    rw [h.mode_eq] at hread
    exact Range.readable_of_parse hread

theorem Readable.setSlot (h : Readable mode s) {slot : Nat} {bottom top : Binary64}
    {inverted : Bool} (hset : s.setSlot slot bottom top inverted = .ok t) : Readable mode t := by
  unfold ThresholdSet.setSlot at hset
  split at hset
  · cases hset
  · rename_i hnan
    simp only [Bool.or_eq_true, not_or] at hnan
    have hnew : (Range.ofBounds s.mode bottom top inverted).Readable mode := by
      rw [h.mode_eq]
      exact Range.readable_ofBounds mode inverted (fun hb => hnan.1 (by rw [hb]; rfl))
        fun ht => hnan.2 (by rw [ht]; rfl)
    split at hset
    · cases hset
    · dsimp only at hset
      split at hset
      · cases hset
        refine ⟨h.mode_eq, fun r hr => ?_⟩
        rcases List.mem_append.1 hr with hr | hr
        · exact h.ranges r hr
        · rw [List.mem_singleton.1 hr]
          exact hnew
      · cases hset
        refine ⟨h.mode_eq, fun r hr => ?_⟩
        rcases List.mem_or_eq_of_mem_set hr with hr | rfl
        · exact h.ranges r hr
        · exact hnew

/-- One edit keeps a set readable. -/
theorem Readable.edit (h : Readable mode s) {edit : Edit} (hedit : edit.apply s = .ok t) :
    Readable mode t := by
  cases edit with
  | append text => exact h.append hedit
  | setSlot slot bottom top inverted => exact h.setSlot hedit

/-- **A run of edits leaves only readable ranges.** -/
theorem edited_readable (mode : Mode) (edits : List Edit) :
    Readable mode ((empty mode).edited edits) :=
  edited_induction edits (readable_empty mode) fun _ _ _ hs hnext => hs.edit hnext

/-- **The text of a set that was edited reads back as the set.** No text of a range has a comma or
    a blank in it, and none is empty. -/
theorem edited_text_lossless (mode : Mode) (edits : List Edit) :
    (∀ r ∈ ((empty mode).edited edits).ranges,
      r.raw ≠ "" ∧ ∀ c ∈ r.raw.toList, c ≠ ',' ∧ isBlank c = false) ∧
    (((empty mode).edited edits).ranges ≠ [] →
      ∃ t, parse mode ((empty mode).edited edits).text = .ok t ∧
        t.equals ((empty mode).edited edits) = true) := by
  have h := edited_readable mode edits
  constructor
  · intro r hr
    exact ⟨(h.ranges r hr).raw_ne_empty, (h.ranges r hr).raw_chars⟩
  · exact h.parse_text

theorem edited_text_lossless_replaced :
    let s := (empty .zeroFloor).edited
      [.append "10,@5:20", .append "ten", .setSlot 2 .negInfinity .infinity true]
    s.ranges ≠ [] ∧ ∃ t, parse .zeroFloor s.text = .ok t ∧ t.equals s = true := by
  intro s
  have hne : s.ranges ≠ [] := by
    intro hnil
    have hlength : s.ranges.length = 2 := by decide +kernel
    rw [hnil] at hlength
    cases hlength
  exact ⟨hne, (edited_text_lossless _ _).2 hne⟩

end ThresholdSet

end ThresholdCheck
