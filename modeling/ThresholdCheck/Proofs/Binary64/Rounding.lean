import ThresholdCheck.Binary64.Rounding

/-!
# Binary64: rounding keeps what needs no rounding

A rank is a binade and a significand of at most 53 bits (`significand`), and its magnitude is the
significand shifted by the binade. So rounding finds each magnitude again:

* `nearestRank_units`: the rank nearest to the magnitude of a rank is that rank;
* `ofDecimal_exact`: the exact decimal of a magnitude, with all its 1074 places, reads as its rank;
* `ofDecimal_sign`: the sign has no part in rounding.
-/

namespace ThresholdCheck.Binary64

/-! ## 1. Powers -/

theorem twoTo_add (a b : Nat) : twoTo (a + b) = twoTo a * twoTo b := Nat.pow_add 2 a b

/-- The largest power of two below a number has the number's binary logarithm as exponent. -/
theorem le_log2_iff {k n : Nat} (h : n ≠ 0) : k ≤ n.log2 ↔ twoTo k ≤ n := Nat.le_log2 h

theorem log2_eq_of_bounds {k n : Nat} (hlo : twoTo k ≤ n) (hhi : n < twoTo (k + 1)) :
    n.log2 = k :=
  (Nat.log2_eq_iff (Nat.pos_iff_ne_zero.1 (Nat.lt_of_lt_of_le (twoTo_pos k) hlo))).2 ⟨hlo, hhi⟩

theorem le_log2_fiveTo_mul {m : Nat} (h : 0 < m) (n : Nat) : n ≤ (m * fiveTo n).log2 := by
  rw [le_log2_iff (Nat.pos_iff_ne_zero.1 (Nat.mul_pos h (fiveTo_pos n)))]
  exact Nat.le_trans (Nat.pow_le_pow_left (by decide) n) (Nat.le_mul_of_pos_left _ h)

/-! ## 2. Binade and significand -/

/-- The binade of a rank: the count of shifts of its significand. -/
def binade (rank : Nat) : Nat := rank / twoTo 52 - 1

/-- The significand of a rank. -/
def significand (rank : Nat) : Nat := rank - binade rank * twoTo 52

theorem units_eq (rank : Nat) : units rank = significand rank * twoTo (binade rank) := rfl

theorem binade_mul_le (rank : Nat) : binade rank * twoTo 52 ≤ rank :=
  Nat.le_trans (Nat.mul_le_mul_right _ (Nat.sub_le _ _)) (Nat.div_mul_le_self _ _)

theorem binade_add_significand (rank : Nat) :
    binade rank * twoTo 52 + significand rank = rank := by
  have := binade_mul_le rank
  unfold significand
  omega

/-- A significand has at most 53 bits, and has them all in each binade that shifts. -/
theorem significand_bounds (rank : Nat) :
    significand rank < twoTo 53 ∧ (binade rank ≠ 0 → twoTo 52 ≤ significand rank) := by
  have hdiv : rank / twoTo 52 * twoTo 52 + rank % twoTo 52 = rank := by
    rw [Nat.mul_comm]
    exact Nat.div_add_mod rank (twoTo 52)
  have hmod : rank % twoTo 52 < twoTo 52 := Nat.mod_lt _ (twoTo_pos 52)
  have hsum := binade_add_significand rank
  have h53 : twoTo 53 = twoTo 52 * 2 := twoTo_succ 52
  by_cases hb : rank / twoTo 52 = 0
  · have hz : binade rank = 0 := by
      unfold binade
      omega
    rw [hz, Nat.zero_mul] at hsum
    rw [hb, Nat.zero_mul] at hdiv
    exact ⟨by omega, fun h => absurd hz h⟩
  · have hs : binade rank + 1 = rank / twoTo 52 := Nat.sub_add_cancel (Nat.pos_of_ne_zero hb)
    rw [← hs, Nat.add_mul, Nat.one_mul] at hdiv
    exact ⟨by omega, fun _ => by omega⟩

theorem units_pos {rank : Nat} (h : 0 < rank) : 0 < units rank := by
  rw [units_eq]
  refine Nat.mul_pos ?_ (twoTo_pos _)
  have hsum := binade_add_significand rank
  by_cases hb : binade rank = 0
  · rw [hb, Nat.zero_mul] at hsum
    omega
  · exact Nat.lt_of_lt_of_le (twoTo_pos 52) ((significand_bounds rank).2 hb)

/-- The binade of a rank is read off the binary logarithm of its magnitude. -/
theorem log2_units {rank : Nat} (h : 0 < rank) : (units rank).log2 - 52 = binade rank := by
  obtain ⟨hlt, hge⟩ := significand_bounds rank
  have hup : units rank < twoTo (52 + binade rank + 1) := by
    have hexp : 52 + binade rank + 1 = 53 + binade rank := by omega
    rw [units_eq, hexp, twoTo_add]
    exact Nat.mul_lt_mul_of_pos_right hlt (twoTo_pos _)
  by_cases hb : binade rank = 0
  · rw [hb] at hup ⊢
    have := (Nat.log2_lt (Nat.pos_iff_ne_zero.1 (units_pos h))).2 hup
    omega
  · have hlo : twoTo (52 + binade rank) ≤ units rank := by
      rw [units_eq, twoTo_add]
      exact Nat.mul_le_mul_right _ (hge hb)
    rw [log2_eq_of_bounds hlo hup]
    omega

/-! ## 3. Rounding -/

/-- A quotient that comes out even is not rounded. -/
theorem roundHalfEven_mul {q den : Nat} (h : 0 < den) : roundHalfEven (q * den) den = q := by
  unfold roundHalfEven
  simp only [Nat.mul_mod_left, Nat.mul_zero, if_pos h]
  exact Nat.mul_div_cancel q h

/-- **The rank nearest to the magnitude of a rank is that rank.** -/
theorem nearestRank_units {rank den : Nat} (hr : 0 < rank) (hd : 0 < den) :
    nearestRank (units rank * den) den = rank := by
  have hquot : units rank * den = significand rank * (den * twoTo (binade rank)) := by
    rw [units_eq, Nat.mul_assoc, Nat.mul_comm (twoTo _)]
  unfold nearestRank
  rw [Nat.mul_div_cancel _ hd, log2_units hr]
  dsimp only
  rw [hquot, roundHalfEven_mul (Nat.mul_pos hd (twoTo_pos _))]
  exact binade_add_significand rank

/-! ## 4. Decimals -/

/-- What a decimal reads as is a rank with the sign that was given. -/
theorem ofDecimal_sign (coefficient : Nat) (exponent : Int) :
    ∃ rank, ∀ negative, ofDecimal negative coefficient exponent = ofRank negative rank := by
  unfold ofDecimal
  split
  · exact ⟨_, fun _ => rfl⟩
  split
  · exact ⟨_, fun _ => rfl⟩
  split
  · exact ⟨_, fun _ => rfl⟩
  split
  · exact ⟨_, fun _ => rfl⟩
  · exact ⟨_, fun _ => rfl⟩

theorem ofRank_of_le {negative : Bool} {rank : Nat} (h : rank ≤ topRank) :
    ofRank negative rank = signed negative ⟨rank, Nat.lt_succ_of_le h⟩ := dif_pos h

theorem ofRank_of_ge {negative : Bool} {rank : Nat} (h : topRank ≤ rank) :
    ofRank negative rank = ofRank negative topRank := by
  by_cases he : rank = topRank
  · rw [he]
  · have hn : ¬ rank ≤ topRank := by omega
    rw [ofRank_of_le (Nat.le_refl topRank)]
    exact dif_neg hn

/-- Numbers of one sign with equal ranks are equal under the other sign too. -/
theorem ofRank_sign {a b : Nat} {s : Bool} (h : ofRank s a = ofRank s b) (t : Bool) :
    ofRank t a = ofRank t b := by
  by_cases ha : a ≤ topRank
  · by_cases hb : b ≤ topRank
    · rw [ofRank_of_le ha, ofRank_of_le hb] at h
      cases h
      rfl
    · rw [ofRank_of_ge (Nat.le_of_not_le hb), ofRank_of_le ha, ofRank_of_le (Nat.le_refl _)] at h
      cases h
      rw [ofRank_of_ge (Nat.le_of_not_le hb)]
  · by_cases hb : b ≤ topRank
    · rw [ofRank_of_ge (Nat.le_of_not_le ha), ofRank_of_le hb, ofRank_of_le (Nat.le_refl _)] at h
      cases h
      rw [ofRank_of_ge (Nat.le_of_not_le ha)]
    · rw [ofRank_of_ge (Nat.le_of_not_le ha), ofRank_of_ge (Nat.le_of_not_le hb)]

theorem ofDecimal_sign_congr {coefficient rank : Nat} {exponent : Int}
    (h : ofDecimal false coefficient exponent = ofRank false rank) (negative : Bool) :
    ofDecimal negative coefficient exponent = ofRank negative rank := by
  obtain ⟨k, hk⟩ := ofDecimal_sign coefficient exponent
  rw [hk] at h ⊢
  exact ofRank_sign h negative

/-- **The exact decimal of a magnitude reads as its rank.** -/
theorem ofDecimal_exact {rank : Nat} (h : 0 < rank) (negative : Bool) :
    ofDecimal negative (units rank * fiveTo 1074) (-1074) = ofRank negative rank := by
  have hpos : units rank * fiveTo 1074 ≠ 0 :=
    Nat.pos_iff_ne_zero.1 (Nat.mul_pos (units_pos h) (fiveTo_pos 1074))
  have hlog : 1074 ≤ (units rank * fiveTo 1074).log2 := le_log2_fiveTo_mul (units_pos h) 1074
  have htiny : ¬ ((-1074 : Int) + (Nat.log2 (units rank * fiveTo 1074) + 401 : Nat) < 0) := by
    omega
  unfold ofDecimal
  rw [if_neg hpos, if_neg (by decide), if_neg htiny, if_neg (by decide), Nat.mul_assoc,
    fiveTo_mul_twoTo]
  exact congrArg (ofRank negative) (nearestRank_units h (tenTo_pos 1074))

end ThresholdCheck.Binary64
