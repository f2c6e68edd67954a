import ThresholdCheck.Proofs.Range.Rendering

/-!
# The canonical text of a range

What is written of the bounds of a range need not be the text that it was read from, but it stands
for the same range, and no further reading and writing changes it.

* `Binary64.equals_congr`, `violatedBy_congr`: bounds that are the same numbers are compared alike,
  so ranges of them are violated by the same values;
* `Expression.ofBounds_denote`: the bounds that the tree of two bounds denotes have this tree again;
* `write_of_reread`: so what is written of bounds, read and written again, is what it was;
* **`canonical_of_parse`**: for each range that is read, the written text reads as the same bounds
  and polarity, and is written of them again.
-/

namespace ThresholdCheck

/-! ## 1. Bounds that are the same numbers -/

namespace Binary64

variable {x y : Binary64}

theorem key_eq_of_equals (h : x.equals y = true) : x.key = y.key := by
  obtain ⟨k, hx, hy⟩ := equals_iff.1 h
  rw [hx, hy]

theorem equals_congr (h : x.equals y = true) (z : Binary64) : x.equals z = y.equals z := by
  unfold equals
  rw [key_eq_of_equals h]

theorem le_congr_left (h : x.equals y = true) {z : Binary64} : x ≤ z ↔ y ≤ z := by
  rw [le_iff, le_iff, key_eq_of_equals h]

theorem le_congr_right (h : x.equals y = true) {z : Binary64} : z ≤ x ↔ z ≤ y := by
  rw [le_iff, le_iff, key_eq_of_equals h]

end Binary64

namespace Range

/-- **Ranges of the same numbers and polarity are violated by the same values.** -/
theorem violatedBy_congr {r s : Range} (bottom : r.bottom.equals s.bottom = true)
    (top : r.top.equals s.top = true) (inverted : r.inverted = s.inverted) (value : Binary64) :
    r.violatedBy value = s.violatedBy value := by
  unfold violatedBy
  rw [inverted, decide_eq_decide.2 (Binary64.le_congr_left bottom),
    decide_eq_decide.2 (Binary64.le_congr_right top)]

/-! ## 2. The tree of the bounds that a tree denotes -/

variable {mode : Mode} {bottom top x y : Binary64} {inverted : Bool} {hb : bottom ≠ .nan}
  {ht : top ≠ .nan}

/-- The value of the start of a number has that start. -/
theorem Start.ofNumber_value (hx : x ≠ .nan) (hvalue : x = (Start.ofNumber bottom hb).value mode) :
    Start.ofNumber x hx = Start.ofNumber bottom hb := by
  by_cases h : bottom.equals .negInfinity = true
  · have hlowest : Start.ofNumber bottom hb = .lowest := if_pos h
    rw [hlowest] at hvalue ⊢
    have hx' : x.equals .negInfinity = true := by
      rw [hvalue]
      show Binary64.negInfinity.equals .negInfinity = true
      decide
    exact if_pos hx'
  · have hbound : Start.ofNumber bottom hb = .bound (.ofNumber bottom hb) := if_neg h
    rw [hbound] at hvalue
    subst hvalue
    rfl

/-- The value of the stop of a number has that stop. -/
theorem Stop.ofNumber_value (hx : x ≠ .nan) (hvalue : x = (Stop.ofNumber top ht).value) :
    Stop.ofNumber x hx = Stop.ofNumber top ht := by
  by_cases h : top.equals .infinity = true
  · have homitted : Stop.ofNumber top ht = .omitted := if_pos h
    rw [homitted] at hvalue ⊢
    have hx' : x.equals .infinity = true := by
      rw [hvalue]
      decide
    exact if_pos hx'
  · have hbound : Stop.ofNumber top ht = .bound (.ofNumber top ht) := if_neg h
    rw [hbound] at hvalue
    subst hvalue
    rfl

/-- **The bounds that the tree of two bounds denotes have this tree again.** -/
theorem Expression.ofBounds_denote (hx : x ≠ .nan) (hy : y ≠ .nan)
    (hbottom : x = ((Expression.ofBounds mode bottom top inverted hb ht).denote mode).bottom)
    (htop : y = ((Expression.ofBounds mode bottom top inverted hb ht).denote mode).top) :
    Expression.ofBounds mode x y inverted hx hy =
      Expression.ofBounds mode bottom top inverted hb ht := by
  by_cases h : (bottom.equals mode.defaultBottom && !top.equals .infinity) = true
  · -- the start is left out, so the tree denotes the default bottom, which is left out again
    have htree : Expression.ofBounds mode bottom top inverted hb ht =
        ⟨inverted, .single (.ofNumber top ht)⟩ := congrArg (Expression.mk inverted) (if_pos h)
    rw [htree] at hbottom htop ⊢
    have hx' : x = mode.defaultBottom := hbottom
    have hy' : y = top := htop
    subst hx' hy'
    have hdefault := Binary64.equals_refl hx
    have hopen : (!y.equals .infinity) = true := (Bool.and_eq_true_iff.1 h).2
    have hagain : (mode.defaultBottom.equals mode.defaultBottom && !y.equals .infinity) = true := by
      rw [hdefault, hopen]
      rfl
    exact congrArg (Expression.mk inverted) (if_pos hagain)
  · have htree : Expression.ofBounds mode bottom top inverted hb ht =
        ⟨inverted, .span (.ofNumber bottom hb) (.ofNumber top ht)⟩ :=
      congrArg (Expression.mk inverted) (if_neg h)
    rw [htree] at hbottom htop ⊢
    have hx' : x = (Start.ofNumber bottom hb).value mode := hbottom
    have hy' : y = (Stop.ofNumber top ht).value := htop
    -- the bounds that are denoted are the same numbers, so the start is not left out now either
    have hagain : ¬(x.equals mode.defaultBottom && !y.equals .infinity) = true := by
      rw [hx', hy', Binary64.equals_congr (Start.value_ofNumber mode hb),
        Binary64.equals_congr (Stop.value_ofNumber ht)]
      exact h
    have htree' : Expression.ofBounds mode x y inverted hx hy =
        ⟨inverted, .span (.ofNumber x hx) (.ofNumber y hy)⟩ :=
      congrArg (Expression.mk inverted) (if_neg hagain)
    rw [htree', Start.ofNumber_value hx hx', Stop.ofNumber_value hy hy']

/-! ## 3. Texts -/

/-- What is written of bounds reads as the same numbers, of which the same text is written. -/
theorem write_of_reread (mode : Mode) (inverted : Bool) (hb : bottom ≠ .nan) (ht : top ≠ .nan) :
    ∃ r, parse mode (write mode bottom top inverted) = .ok r ∧
      r.equals (ofBounds mode bottom top inverted) = true ∧
      write mode r.bottom r.top r.inverted = write mode bottom top inverted := by
  let e := Expression.ofBounds mode bottom top inverted hb ht
  have hread := parse_write mode inverted hb ht
  obtain ⟨hx, hy⟩ := e.body.bounds_ne_nan mode
  have htree : Expression.ofBounds mode (e.denote mode).bottom (e.denote mode).top inverted hx hy = e :=
    Expression.ofBounds_denote hx hy rfl rfl
  refine ⟨e.denote mode, hread, Expression.denote_ofBounds mode inverted hb ht, ?_⟩
  rw [← String.toList_inj, ← Expression.chars_ofBounds mode inverted hb ht]
  exact (Expression.chars_ofBounds mode inverted hx hy).symm.trans (congrArg Expression.chars htree)

/-- **The canonical text of a range that is read.** The range that is made of its bounds is violated
    by the same values. Its text reads, in the same mode, as bounds that are the same numbers, with
    the same polarity, and the text that is written of these is the same again. -/
theorem canonical_of_parse {text : String} {p : Range} (h : parse mode text = .ok p) :
    let q := ofBounds mode p.bottom p.top p.inverted
    (∀ value, q.violatedBy value = p.violatedBy value) ∧
    ∃ r, parse mode q.raw = .ok r ∧
      r.bottom.equals p.bottom = true ∧ r.top.equals p.top = true ∧ r.inverted = p.inverted ∧
      (∀ value, r.violatedBy value = p.violatedBy value) ∧
      (ofBounds mode r.bottom r.top r.inverted).raw = q.raw := by
  intro q
  obtain ⟨e, -, rfl⟩ := parse_eq_ok_iff.1 h
  obtain ⟨hb, ht⟩ := e.body.bounds_ne_nan mode
  obtain ⟨r, hread, hsame, hwrite⟩ := write_of_reread mode e.inverted hb ht
  unfold equals at hsame
  simp only [Bool.and_eq_true, beq_iff_eq] at hsame
  obtain ⟨⟨⟨hbottom, htop⟩, hinverted⟩, -⟩ := hsame
  refine ⟨fun value => rfl, r, hread, hbottom, htop, hinverted, fun value => ?_, hwrite⟩
  exact violatedBy_congr hbottom htop hinverted value

/-- Negative zero is left out as the default bottom, although the top lies below it. -/
theorem canonical_of_parse_negativeZero :
    ∃ p r, parse .zeroFloor " @-0:-inf " = .ok p ∧ p.bottom ≠ .zero ∧
      (ofBounds .zeroFloor p.bottom p.top p.inverted).raw = "@-inf" ∧
      parse .zeroFloor "@-inf" = .ok r ∧ r.bottom.equals p.bottom = true ∧ r.top = .negInfinity ∧
      (ofBounds .zeroFloor r.bottom r.top r.inverted).raw = "@-inf" := by
  let p : Range := ⟨.ofRank true 0, .negInfinity, true, "@-0:-inf"⟩
  have hread : parse .zeroFloor " @-0:-inf " = .ok p := eq_ok_of_toOption (by decide +kernel)
  obtain ⟨-, r, hreread, hbottom, -, -, -, hagain⟩ := canonical_of_parse hread
  have hraw : (ofBounds .zeroFloor p.bottom p.top p.inverted).raw = "@-inf" := by decide +kernel
  rw [hraw] at hreread hagain
  have htop : (parse .zeroFloor "@-inf").toOption.map Range.top = some .negInfinity := by
    decide +kernel
  rw [hreread] at htop
  exact ⟨p, r, hread, by decide +kernel, hraw, hreread, hbottom, Option.some.inj htop, hagain⟩

end Range

end ThresholdCheck
