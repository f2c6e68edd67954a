import ThresholdCheck.Proofs.Binary64.Order
import ThresholdCheck.Proofs.ThresholdSet.Text

/-!
# When a value violates a range

A plain range is violated by the values outside its bounds, an inverted one by those inside, the
bounds included. The test asks only whether a value is inside; that all others are below the bottom
or above the top holds of numbers, and no range that can be made has NaN for a bound.

* **`violatedBy_iff`**: the rule, for bounds that are numbers, whether they are in order or not;
* `parse_inverse`: `@` before a plain range makes its inverse, and **`violatedBy_inverse`**: of a
  range and its inverse, each value violates one;
* **`violation_rule`**: so it is with each range that is read and with each one of a set that was
  edited.
-/

namespace ThresholdCheck

open Text (trim trimmed)

namespace Range

/-! ## 1. The rule -/

/-- The bounds are numbers, and a number violates the range as the polarity has it. -/
structure FollowsRule (r : Range) : Prop where
  bottom : r.bottom.isNaN = false
  top : r.top.isNaN = false
  violated : ∀ value : Binary64, value.isNaN = false →
    (r.violatedBy value = true ↔
      (r.inverted = false ∧ (value < r.bottom ∨ r.top < value)) ∨
      (r.inverted = true ∧ r.bottom ≤ value ∧ value ≤ r.top))

/-- **Outside the bounds if the range is plain, inside if it is inverted.** -/
theorem violatedBy_iff {r : Range} (hbottom : r.bottom.isNaN = false) (htop : r.top.isNaN = false)
    {value : Binary64} (hvalue : value.isNaN = false) :
    r.violatedBy value = true ↔
      (r.inverted = false ∧ (value < r.bottom ∨ r.top < value)) ∨
      (r.inverted = true ∧ r.bottom ≤ value ∧ value ≤ r.top) := by
  unfold violatedBy
  rw [← Binary64.not_le_iff hbottom hvalue, ← Binary64.not_le_iff hvalue htop]
  cases r.inverted with
  | false =>
    simp only [Bool.false_eq_true, if_false, Bool.not_eq_true', Bool.and_eq_false_iff,
      decide_eq_false_iff_not, true_and, false_and, or_false]
  | true =>
    simp only [if_true, Bool.and_eq_true, decide_eq_true_eq, Bool.true_eq_false, false_and,
      true_and, false_or]

theorem followsRule_of_numbers {r : Range} (hbottom : r.bottom.isNaN = false)
    (htop : r.top.isNaN = false) : r.FollowsRule :=
  ⟨hbottom, htop, fun _ hvalue => violatedBy_iff hbottom htop hvalue⟩

/-- The bounds of a readable range are numbers, for they are those of its text as numbers. -/
theorem Readable.followsRule {mode : Mode} {r : Range} (h : r.Readable mode) : r.FollowsRule := by
  obtain ⟨e, -, hsame⟩ := h
  unfold equals at hsame
  simp only [Bool.and_eq_true] at hsame
  obtain ⟨⟨⟨hbottom, htop⟩, -⟩, -⟩ := hsame
  obtain ⟨k, -, hk⟩ := Binary64.equals_iff.1 hbottom
  obtain ⟨l, -, hl⟩ := Binary64.equals_iff.1 htop
  refine followsRule_of_numbers ?_ ?_
  · cases hb : r.bottom with
    | nan =>
      rw [hb] at hk
      cases hk
    | signed negative rank => rfl
  · cases ht : r.top with
    | nan =>
      rw [ht] at hl
      cases hl
    | signed negative rank => rfl

/-! ## 2. Inverse ranges -/

/-- The range with the other polarity, and `@` before its text. -/
def inverse (r : Range) : Range := { r with inverted := !r.inverted, raw := "@" ++ r.raw }

/-- **Of a range and its inverse, each value violates one.** -/
theorem violatedBy_inverse (r : Range) (value : Binary64) :
    r.inverse.violatedBy value = !r.violatedBy value := by
  unfold violatedBy inverse
  cases r.inverted with
  | false => simp
  | true => simp

theorem readTrimmed_inverse (mode : Mode) {cs : List Char} (plain : cs.head? ≠ some '@') :
    readTrimmed mode ('@' :: cs) = (readTrimmed mode cs).map inverse := by
  have hplain : takeInversion cs = (false, cs) := by
    unfold takeInversion
    split
    · exact absurd rfl plain
    · rfl
  have hraw : String.ofList ('@' :: cs) = "@" ++ String.ofList cs := by
    rw [← String.toList_inj]
    simp
  unfold readTrimmed
  rw [hplain]
  show (readBounds mode cs).map _ = ((readBounds mode cs).map _).map inverse
  cases readBounds mode cs with
  | error cause => rfl
  | ok bounds =>
    show Except.ok (Range.mk bounds.1 bounds.2 true (String.ofList ('@' :: cs))) = _
    rw [hraw]
    rfl

/-- **`@` before the trimmed text of a plain range makes its inverse.** -/
theorem parse_inverse {mode : Mode} {text : String} (plain : (trim text.toList).head? ≠ some '@')
    {s : Range} :
    parse mode ("@" ++ trimmed text) = .ok s ↔ ∃ r, parse mode text = .ok r ∧ s = r.inverse := by
  have htrim : trim ("@" ++ trimmed text).toList = '@' :: trim text.toList := by
    rw [String.toList_append, Text.toList_trimmed]
    exact Text.trim_cons_trim (by decide) text.toList
  unfold parse
  rw [htrim, readTrimmed_inverse mode plain]
  cases readTrimmed mode (trim text.toList) with
  | error cause => simp [Except.map, Except.mapError]
  | ok r => simp [Except.map, Except.mapError, eq_comm]

/-! ## 3. All ranges -/

/-- **Each range that is read, and each one of a set that was edited, is violated by the rule.** A
    text without `@` before it and the trimmed text with `@` before it are ranges both or neither,
    and then each value violates exactly one of the two. -/
theorem violation_rule (mode : Mode) :
    (∀ text r, parse mode text = .ok r → r.FollowsRule) ∧
    (∀ edits, ∀ r ∈ ((ThresholdSet.empty mode).edited edits).ranges, r.FollowsRule) ∧
    ∀ text, (trim text.toList).head? ≠ some '@' →
      ((∃ r, parse mode text = .ok r) ↔ ∃ s, parse mode ("@" ++ trimmed text) = .ok s) ∧
      ∀ r s, parse mode text = .ok r → parse mode ("@" ++ trimmed text) = .ok s →
        ∀ value, s.violatedBy value = !r.violatedBy value := by
  refine ⟨fun text r hr => (readable_of_parse hr).followsRule, fun edits r hr => ?_,
    fun text plain => ⟨?_, fun r s hr hs value => ?_⟩⟩
  · exact ((ThresholdSet.edited_readable mode edits).ranges r hr).followsRule
  · constructor
    · rintro ⟨r, hr⟩
      exact ⟨r.inverse, (parse_inverse plain).2 ⟨r, hr, rfl⟩⟩
    · rintro ⟨s, hs⟩
      obtain ⟨r, hr, -⟩ := (parse_inverse plain).1 hs
      exact ⟨r, hr⟩
  · obtain ⟨r', hr', rfl⟩ := (parse_inverse plain).1 hs
    have hsame : r = r' := Except.ok.inj (hr.symm.trans hr')
    rw [hsame]
    exact violatedBy_inverse r' value

/-- The bounds are not in order, so the plain range is violated by each value and its inverse by
    none. -/
theorem violation_rule_crossed :
    ∃ r s, parse .zeroFloor " 5:-inf " = .ok r ∧ parse .zeroFloor "@5:-inf" = .ok s ∧
      r.FollowsRule ∧ s.violatedBy .zero = !r.violatedBy .zero ∧ r.violatedBy .zero = true := by
  obtain ⟨hread, -, hinverse⟩ := violation_rule .zeroFloor
  obtain ⟨hboth, hone⟩ := hinverse " 5:-inf " (by decide)
  obtain ⟨r, hr, hviolated⟩ :
      ∃ r, parse .zeroFloor " 5:-inf " = .ok r ∧ r.violatedBy .zero = true := by
    have hvalue : (parse .zeroFloor " 5:-inf ").toOption.map (fun r => r.violatedBy .zero) =
        some true := by decide +kernel
    obtain ⟨r, hr, hviolated⟩ := Option.map_eq_some_iff.1 hvalue
    exact ⟨r, eq_ok_of_toOption hr, hviolated⟩
  have hmark : "@" ++ trimmed " 5:-inf " = "@5:-inf" := by decide
  obtain ⟨s, hs⟩ := hboth.1 ⟨r, hr⟩
  have hopposite := hone r s hr hs .zero
  rw [hmark] at hs
  exact ⟨r, s, hr, hs, hread _ r hr, hopposite, hviolated⟩

end Range

end ThresholdCheck
