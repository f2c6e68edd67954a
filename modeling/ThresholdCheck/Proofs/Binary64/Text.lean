import Mathlib.Data.List.Basic
import ThresholdCheck.Proofs.Binary64.RoundTrip
import ThresholdCheck.Proofs.Text.Trimming

/-!
# Binary64: telling the text of a number from what stands after it

* `toChars_injective`: no two numbers have one text, NaN included;
* `getLast?_toChars`: a text ends in a digit, or in the `f` of infinity, unless it is that of NaN;
* **`numberChars_append`**: so it is found again before a unit, which has no such character.
-/

namespace ThresholdCheck.Binary64

/-! ## 1. One text for each number -/

theorem toChars_injective : Function.Injective toChars := by
  have hreads : ∀ x : Binary64, ofLiteral x.toChars = .ok x := by
    intro x
    by_cases hx : x = nan
    · rw [hx]
      rfl
    · exact ofLiteral_toChars hx
  intro x y h
  have hx := hreads x
  rw [h, hreads y] at hx
  exact (Except.ok.inj hx).symm

theorem text_injective : Function.Injective text := by
  intro x y h
  have hchars := congrArg String.toList h
  rw [toList_text, toList_text] at hchars
  exact toChars_injective hchars

theorem text_ne_empty (x : Binary64) : x.text ≠ "" := by
  intro h
  have hnil : x.toChars = [] := by
    rw [← toList_text, h]
    rfl
  by_cases hx : x = nan
  · rw [hx] at hnil
    cases hnil
  · exact ofLiteral_ne_nil (ofLiteral_toChars hx) hnil

/-! ## 2. How a text ends -/

/-- The characters that the text of a number may end in. -/
def isEndChar (c : Char) : Bool := c.isDigit || c == 'f'

theorem isEndChar_of_isDigit {c : Char} (h : c.isDigit = true) : isEndChar c = true := by
  simp [isEndChar, h]

theorem getLast?_positional {coefficient : Nat} {exponent : Int} :
    ∀ c, (positional coefficient exponent).getLast? = some c → c.isDigit = true := by
  intro c hc
  by_cases hexp : 0 ≤ exponent
  · have htext : positional coefficient exponent =
        Nat.toDigits 10 coefficient ++ List.replicate exponent.toNat '0' := by
      unfold positional
      exact if_pos hexp
    rw [htext] at hc
    rcases List.mem_append.1 (List.mem_of_getLast? hc) with hmem | hmem
    · exact toDigits_all_isDigit coefficient c hmem
    · rw [(List.mem_replicate.1 hmem).2]
      decide
  · obtain ⟨places, hplaces⟩ := Int.eq_ofNat_of_zero_le (show 0 ≤ -exponent by omega)
    have hneg : exponent = -(places : Int) := by omega
    subst hneg
    obtain ⟨whole, fraction, htext, -, hfraction, -, hlength, -⟩ :=
      positional_negative coefficient (show 0 < places by omega)
    -- there is a place after the point, so the last character is one of the fraction
    have hne : fraction ≠ [] := by
      intro hnil
      rw [hnil, List.length_nil] at hlength
      omega
    have hlast : (whole ++ '.' :: fraction).getLast? = fraction.getLast? := by
      rw [List.append_cons, List.getLast?_append_of_ne_nil _ hne]
    rw [htext, hlast] at hc
    exact hfraction c (List.mem_of_getLast? hc)

theorem getLast?_magnitudeChars {rank : Nat} :
    ∀ c, (magnitudeChars rank).getLast? = some c → isEndChar c = true := by
  intro c hc
  unfold magnitudeChars at hc
  by_cases htop : rank = topRank
  · rw [if_pos htop] at hc
    cases hc
    decide
  · rw [if_neg htop] at hc
    by_cases hzero : rank = 0
    · rw [if_pos hzero] at hc
      cases hc
      decide
    · rw [if_neg hzero] at hc
      generalize shortest rank = d at hc
      obtain ⟨coefficient, exponent⟩ := d
      exact isEndChar_of_isDigit (getLast?_positional c hc)

/-- **The text of a number ends in a digit or an `f`.** -/
theorem getLast?_toChars {x : Binary64} (h : x ≠ nan) :
    ∃ c, x.toChars.getLast? = some c ∧ isEndChar c = true := by
  cases x with
  | nan => exact absurd rfl h
  | signed negative rank =>
    have hle : rank.val ≤ topRank := Nat.le_of_lt_succ rank.isLt
    obtain ⟨-, first, rest, hcs, -, -⟩ := readMagnitude hle
    have hne : magnitudeChars rank.val ≠ [] := by
      rw [hcs]
      exact List.cons_ne_nil _ _
    obtain ⟨c, hc⟩ : ∃ c, (magnitudeChars rank.val).getLast? = some c :=
      ⟨_, List.getLast?_eq_some_getLast hne⟩
    refine ⟨c, ?_, getLast?_magnitudeChars c hc⟩
    cases negative with
    | false => exact hc
    | true =>
      show ('-' :: magnitudeChars rank.val).getLast? = some c
      rw [List.getLast?_cons_of_ne_nil hne]
      exact hc

/-! ## 3. A number before a unit -/

/-- The text up to the last character that a number may end in. -/
def numberChars (cs : List Char) : List Char :=
  (cs.reverse.dropWhile fun c => !isEndChar c).reverse

/-- **A number is found again before characters in which none ends.** -/
theorem numberChars_append {x : Binary64} (h : x ≠ nan) {unit : List Char}
    (hunit : ∀ c ∈ unit, isEndChar c = false) : numberChars (x.toChars ++ unit) = x.toChars := by
  obtain ⟨c, hc, hend⟩ := getLast?_toChars h
  refine Text.reverse_dropWhile_append (fun d hd => ?_) (fun d hd => ?_)
  · rw [hc] at hd
    cases hd
    rw [hend]
    rfl
  · rw [hunit d hd]
    rfl

end ThresholdCheck.Binary64
