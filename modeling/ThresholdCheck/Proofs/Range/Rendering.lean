import ThresholdCheck.Proofs.Binary64.RoundTrip
import ThresholdCheck.Proofs.Range.Grammar

/-!
# What is written of bounds reads back

The text that is made of two bounds is the text of a syntax tree (`Expression.ofBounds`), so it reads
back as what the tree denotes (`parse_write`). These are the bounds again as numbers: the two zeros
count as one (`Expression.denote_ofBounds`).

* a start that the mode supplies is left out, unless the stop is open too;
* negative infinity is `~` where it is written, an infinite stop is left open.
-/

namespace ThresholdCheck

/-! ## 1. Equality as numbers -/

namespace Binary64

theorem equals_refl {x : Binary64} (h : x ≠ nan) : x.equals x = true := by
  cases hk : x.key with
  | none => exact absurd (key_eq_none_iff.1 hk) h
  | some k => exact equals_iff.2 ⟨k, hk, hk⟩

theorem equals_symm {x y : Binary64} (h : x.equals y = true) : y.equals x = true := by
  obtain ⟨k, hx, hy⟩ := equals_iff.1 h
  exact equals_iff.2 ⟨k, hy, hx⟩

end Binary64

namespace Range

open Text (trim)

/-- A range without NaN is the same as itself. -/
theorem equals_refl {r : Range} (hb : r.bottom ≠ .nan) (ht : r.top ≠ .nan) :
    r.equals r = true := by
  unfold equals
  rw [Binary64.equals_refl hb, Binary64.equals_refl ht, beq_self_eq_true, beq_self_eq_true]
  rfl

/-! ## 2. The tree of two bounds -/

/-- The numeral that a number is written as. -/
def Numeral.ofNumber (x : Binary64) (h : x ≠ .nan) : Numeral :=
  ⟨x.toChars, x, Binary64.ofLiteral_toChars h, h⟩

/-- The start that a bottom is written as. -/
def Start.ofNumber (x : Binary64) (h : x ≠ .nan) : Start :=
  if x.equals .negInfinity then .lowest else .bound (.ofNumber x h)

/-- The stop that a top is written as. -/
def Stop.ofNumber (x : Binary64) (h : x ≠ .nan) : Stop :=
  if x.equals .infinity then .omitted else .bound (.ofNumber x h)

/-- The tree that two bounds are written as. -/
def Expression.ofBounds (mode : Mode) (bottom top : Binary64) (inverted : Bool)
    (hb : bottom ≠ .nan) (ht : top ≠ .nan) : Expression where
  inverted := inverted
  body :=
    if bottom.equals mode.defaultBottom && !top.equals .infinity then .single (.ofNumber top ht)
    else .span (.ofNumber bottom hb) (.ofNumber top ht)

section

variable (mode : Mode) {bottom top : Binary64} (inverted : Bool) (hb : bottom ≠ .nan)
  (ht : top ≠ .nan)

/-! ## 3. Its text is what is written -/

theorem Start.chars_ofNumber :
    (Start.ofNumber bottom hb).chars =
      (if bottom.equals .negInfinity then "~" else bottom.text).toList := by
  unfold Start.ofNumber
  split
  · rfl
  · exact (Binary64.toList_text bottom).symm

theorem Stop.chars_ofNumber :
    (Stop.ofNumber top ht).chars =
      (if top.equals .infinity then "" else top.text).toList := by
  unfold Stop.ofNumber
  split
  · rfl
  · exact (Binary64.toList_text top).symm

theorem sign_append (cs : List Char) :
    (if inverted then "@" else "").toList ++ cs = if inverted then '@' :: cs else cs := by
  cases inverted <;> rfl

/-- **The text of the tree is what is written of the bounds.** -/
theorem Expression.chars_ofBounds :
    (Expression.ofBounds mode bottom top inverted hb ht).chars =
      (write mode bottom top inverted).toList := by
  unfold Expression.chars Expression.ofBounds write
  dsimp only
  rw [← sign_append]
  generalize (if inverted = true then "@" else "") = sign
  split
  · rw [String.toList_append, Binary64.toList_text]
    rfl
  · rw [String.toList_append, String.toList_append, String.toList_append,
      ← Start.chars_ofNumber hb, ← Stop.chars_ofNumber ht, List.append_assoc, List.append_assoc]
    rfl

/-! ## 4. It denotes the bounds -/

theorem Start.value_ofNumber : ((Start.ofNumber bottom hb).value mode).equals bottom = true := by
  unfold Start.ofNumber
  split
  · rename_i h
    exact Binary64.equals_symm h
  · exact Binary64.equals_refl hb

theorem Stop.value_ofNumber : (Stop.ofNumber top ht).value.equals top = true := by
  unfold Stop.ofNumber
  split
  · rename_i h
    exact Binary64.equals_symm h
  · exact Binary64.equals_refl ht

/-- **The tree of two bounds denotes their range, as numbers.** -/
theorem Expression.denote_ofBounds :
    ((Expression.ofBounds mode bottom top inverted hb ht).denote mode).equals
      (Range.ofBounds mode bottom top inverted) = true := by
  have hraw : ((Expression.ofBounds mode bottom top inverted hb ht).denote mode).raw =
      (Range.ofBounds mode bottom top inverted).raw := by
    rw [Expression.raw_denote, Expression.chars_ofBounds, String.ofList_toList]
    rfl
  have hbounds :
      ((Expression.ofBounds mode bottom top inverted hb ht).denote mode).bottom.equals bottom = true ∧
      ((Expression.ofBounds mode bottom top inverted hb ht).denote mode).top.equals top = true := by
    unfold Expression.denote Expression.ofBounds
    dsimp only
    split
    · rename_i h
      simp only [Bool.and_eq_true] at h
      exact ⟨Binary64.equals_symm h.1, Binary64.equals_refl ht⟩
    · exact ⟨Start.value_ofNumber mode hb, Stop.value_ofNumber ht⟩
  unfold equals
  rw [hraw]
  show (Binary64.equals _ bottom && Binary64.equals _ top && (inverted == inverted) && _) = true
  rw [hbounds.1, hbounds.2, beq_self_eq_true, beq_self_eq_true]
  rfl

/-- **What is written of bounds reads back as what their tree denotes.** -/
theorem parse_write :
    parse mode (write mode bottom top inverted) =
      .ok ((Expression.ofBounds mode bottom top inverted hb ht).denote mode) := by
  rw [← parse_chars, Expression.chars_ofBounds, String.ofList_toList]

end

end Range

end ThresholdCheck
