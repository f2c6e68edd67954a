import ThresholdCheck.Binary64.Decimal
import ThresholdCheck.Proofs.Binary64.Literal
import ThresholdCheck.Proofs.Binary64.Rounding

/-!
# Binary64: the text of a number reads back as the number

Each number but NaN is the reading of its own text, sign of zero and infinities included
(`ofLiteral_toChars`). The steps:

* `shortest_reads`: the decimal that the search finds, or the exact one behind it, reads as the
  rank it is for, and its exponent is far below the largest that is taken for infinity;
* `decimalOf?_positional`: written positionally, a decimal keeps its value;
* `readMagnitude`: so the text of a magnitude is read as its rank, under either sign.
-/

namespace ThresholdCheck.Binary64

/-! ## 1. The search -/

theorem onGrid?_reads {rank coefficient : Nat} {exponent : Int}
    (h : onGrid? rank exponent = some coefficient) :
    ofDecimal false coefficient exponent = ofRank false rank := by
  unfold onGrid? at h
  dsimp only at h
  have := List.find?_some h
  exact beq_iff_eq.1 this

theorem firstGrid?_reads {rank coefficient grids : Nat} {exponent found : Int}
    (h : firstGrid? rank grids exponent = some (coefficient, found)) :
    ofDecimal false coefficient found = ofRank false rank ∧ found ≤ exponent := by
  induction grids generalizing exponent with
  | zero => cases h
  | succ grids ih =>
    unfold firstGrid? at h
    split at h
    · rename_i hgrid
      cases h
      exact ⟨onGrid?_reads hgrid, Int.le_refl _⟩
    · obtain ⟨hreads, hle⟩ := ih h
      exact ⟨hreads, by omega⟩

/-- The magnitude of a finite rank stays below `2 ^ 2098` units. -/
theorem log2_units_lt {rank : Nat} (hpos : 0 < rank) (hfin : rank < topRank) :
    (units rank).log2 < 2098 := by
  have hb : binade rank ≤ 2045 := by
    have hdiv : rank / twoTo 52 < 2047 := (Nat.div_lt_iff_lt_mul (twoTo_pos 52)).2 hfin
    unfold binade
    omega
  have := log2_units hpos
  omega

theorem gridAbove_le {rank : Nat} (hpos : 0 < rank) (hfin : rank < topRank) :
    gridAbove rank ≤ 400 := by
  have hlog := log2_units_lt hpos hfin
  unfold gridAbove
  omega

/-- Whatever the count of grids that are searched, the answer or the exact decimal reads as the
    rank. -/
theorem firstGrid?_getD_reads {rank : Nat} (hpos : 0 < rank) (negative : Bool) (grids : Nat)
    {exponent : Int} (hle : exponent ≤ 400) :
    let d := (firstGrid? rank grids exponent).getD (units rank * fiveTo 1074, -1074)
    ofDecimal negative d.1 d.2 = ofRank negative rank ∧ d.2 ≤ 400 := by
  cases hgrid : firstGrid? rank grids exponent with
  | some found =>
    obtain ⟨hreads, hfound⟩ := firstGrid?_reads hgrid
    exact ⟨ofDecimal_sign_congr hreads negative, Int.le_trans hfound hle⟩
  | none => exact ⟨ofDecimal_exact hpos negative, Int.le_of_lt (by decide : (-1074 : Int) < 400)⟩

/-- **The shortest decimal of a finite magnitude reads as its rank.** -/
theorem shortest_reads {rank : Nat} (hpos : 0 < rank) (hfin : rank < topRank) (negative : Bool) :
    ofDecimal negative (shortest rank).1 (shortest rank).2 = ofRank negative rank ∧
      (shortest rank).2 ≤ 400 := by
  rw [shortest]
  exact firstGrid?_getD_reads hpos negative 20 (gridAbove_le hpos hfin)

/-! ## 2. Rows of digits -/

theorem toDigits_all_isDigit (n : Nat) : ∀ c ∈ Nat.toDigits 10 n, c.isDigit = true := fun _ hc =>
  Nat.isDigit_of_mem_toDigits (by decide) (by decide) hc

theorem takeWhile_digits {ds : List Char} (h : ∀ c ∈ ds, c.isDigit = true) :
    ds.takeWhile Char.isDigit = ds := by
  rw [← List.append_nil ds, List.takeWhile_append_of_pos h, List.takeWhile_nil]

theorem dropWhile_digits {ds : List Char} (h : ∀ c ∈ ds, c.isDigit = true) :
    ds.dropWhile Char.isDigit = [] := by
  rw [← List.append_nil ds, List.dropWhile_append_of_pos h, List.dropWhile_nil]

theorem decimalOf?_digits {ds : List Char} (h : ∀ c ∈ ds, c.isDigit = true) (hne : ds ≠ []) :
    decimalOf? ds = some (digitsValue ds, 0) := by
  unfold decimalOf?
  dsimp only
  rw [takeWhile_digits h, dropWhile_digits h]
  dsimp only
  have hemp : ds.isEmpty = false := by simpa using hne
  rw [hemp, Bool.false_and, if_neg (by decide), List.append_nil]
  rfl

theorem decimalOf?_pointed {whole fraction : List Char} (hw : ∀ c ∈ whole, c.isDigit = true)
    (hf : ∀ c ∈ fraction, c.isDigit = true) (hne : whole ≠ []) :
    decimalOf? (whole ++ '.' :: fraction) =
      some (digitsValue (whole ++ fraction), -(fraction.length : Int)) := by
  have htake : (whole ++ '.' :: fraction).takeWhile Char.isDigit = whole := by
    rw [List.takeWhile_append_of_pos hw]
    exact List.append_nil whole
  have hdrop : (whole ++ '.' :: fraction).dropWhile Char.isDigit = '.' :: fraction := by
    rw [List.dropWhile_append_of_pos hw]
    rfl
  unfold decimalOf?
  dsimp only
  rw [htake, hdrop]
  simp only [takeWhile_digits hf, dropWhile_digits hf]
  have hemp : whole.isEmpty = false := by simpa using hne
  rw [hemp, Bool.false_and, if_neg (by decide)]

theorem digitsValue_toDigits_append_zeros (n k : Nat) :
    digitsValue (Nat.toDigits 10 n ++ List.replicate k '0') = n * tenTo k := by
  unfold digitsValue
  rw [Nat.ofDigitChars_append, Nat.ofDigitChars_ten_toDigits, Nat.ofDigitChars_replicate_zero,
    Nat.mul_comm]
  rfl

theorem digitsValue_zeros_append_toDigits (n k : Nat) :
    digitsValue (List.replicate k '0' ++ Nat.toDigits 10 n) = n := by
  unfold digitsValue
  rw [Nat.ofDigitChars_append, Nat.ofDigitChars_replicate_zero, Nat.mul_zero,
    Nat.ofDigitChars_ten_toDigits]

/-! ## 3. Positional texts -/

/-- A decimal below the exponents that are taken for infinity or for zero has the value of its
    written-out zeros. -/
theorem ofDecimal_mul_tenTo (negative : Bool) (coefficient places : Nat) (h : places ≤ 400) :
    ofDecimal negative (coefficient * tenTo places) 0 =
      ofDecimal negative coefficient (places : Int) := by
  by_cases hc : coefficient = 0
  · unfold ofDecimal
    rw [hc, Nat.zero_mul, if_pos rfl, if_pos rfl]
  · have hmul : coefficient * tenTo places ≠ 0 :=
      Nat.pos_iff_ne_zero.1 (Nat.mul_pos (Nat.pos_of_ne_zero hc) (tenTo_pos places))
    unfold ofDecimal
    rw [if_neg hmul, if_neg hc, if_neg (by decide), if_neg (by omega), if_pos (Int.le_refl 0),
      if_neg (by omega), if_neg (by omega), if_pos (by omega), Int.toNat_natCast, Int.toNat_zero,
      tenTo_zero, Nat.mul_one]

/-- The text of a decimal, cut at its point. -/
theorem positional_negative (coefficient : Nat) {places : Nat} (hp : 0 < places) :
    ∃ whole fraction : List Char,
      positional coefficient (-(places : Int)) = whole ++ '.' :: fraction ∧
      (∀ c ∈ whole, c.isDigit = true) ∧ (∀ c ∈ fraction, c.isDigit = true) ∧ whole ≠ [] ∧
      fraction.length = places ∧ digitsValue (whole ++ fraction) = coefficient := by
  have hexp : (- -(places : Int)).toNat = places := by omega
  unfold positional
  dsimp only
  rw [if_neg (by omega), hexp]
  have hdig := toDigits_all_isDigit coefficient
  have hval := digitsValue_zeros_append_toDigits coefficient
  generalize Nat.toDigits 10 coefficient = digits at hdig hval ⊢
  generalize hpad : List.replicate (places + 1 - digits.length) '0' ++ digits = padded
  have hlen : places + 1 ≤ padded.length := by
    rw [← hpad, List.length_append, List.length_replicate]
    omega
  have hall : ∀ c ∈ padded, c.isDigit = true := by
    rw [← hpad]
    intro c hc
    rcases List.mem_append.1 hc with hc | hc
    · rw [(List.mem_replicate.1 hc).2]
      decide
    · exact hdig c hc
  refine ⟨_, _, rfl, fun c hc => hall c (List.mem_of_mem_take hc),
    fun c hc => hall c (List.mem_of_mem_drop hc), ?_, ?_, ?_⟩
  · intro hnil
    have := congrArg List.length hnil
    rw [List.length_take, List.length_nil] at this
    omega
  · rw [List.length_drop]
    omega
  · rw [List.take_append_drop, ← hpad]
    exact hval _

/-- **Written positionally, a decimal keeps its value.** Its text begins with a digit. -/
theorem decimalOf?_positional (coefficient : Nat) {exponent : Int} (h : exponent ≤ 400) :
    (∃ d, decimalOf? (positional coefficient exponent) = some d ∧
      ∀ negative, ofDecimal negative d.1 d.2 = ofDecimal negative coefficient exponent) ∧
    ∃ c cs, positional coefficient exponent = c :: cs ∧ c.isDigit = true := by
  by_cases hexp : 0 ≤ exponent
  · obtain ⟨places, rfl⟩ := Int.eq_ofNat_of_zero_le hexp
    have htext : positional coefficient (places : Int) =
        Nat.toDigits 10 coefficient ++ List.replicate places '0' := by
      unfold positional
      exact if_pos hexp
    have hall : ∀ c ∈ Nat.toDigits 10 coefficient ++ List.replicate places '0',
        c.isDigit = true := by
      intro c hc
      rcases List.mem_append.1 hc with hc | hc
      · exact toDigits_all_isDigit coefficient c hc
      · rw [(List.mem_replicate.1 hc).2]
        decide
    have hne : Nat.toDigits 10 coefficient ++ List.replicate places '0' ≠ [] := fun hnil =>
      Nat.toDigits_ne_nil (List.append_eq_nil_iff.1 hnil).1
    rw [htext]
    refine ⟨⟨_, decimalOf?_digits hall hne, fun negative => ?_⟩, ?_⟩
    · rw [digitsValue_toDigits_append_zeros]
      exact ofDecimal_mul_tenTo negative coefficient places (by omega)
    · obtain ⟨c, cs, hcs⟩ := List.exists_cons_of_ne_nil hne
      exact ⟨c, cs, hcs, hall c (by rw [hcs]; exact List.mem_cons_self)⟩
  · obtain ⟨places, hplaces⟩ := Int.eq_ofNat_of_zero_le (show 0 ≤ -exponent by omega)
    have hneg : exponent = -(places : Int) := by omega
    subst hneg
    obtain ⟨whole, fraction, htext, hw, hf, hne, hlen, hval⟩ :=
      positional_negative coefficient (show 0 < places by omega)
    rw [htext]
    refine ⟨⟨_, decimalOf?_pointed hw hf hne, fun negative => ?_⟩, ?_⟩
    · rw [hval, hlen]
    · obtain ⟨c, cs, hcs⟩ := List.exists_cons_of_ne_nil hne
      refine ⟨c, cs ++ '.' :: fraction, by rw [hcs, List.cons_append], hw c ?_⟩
      rw [hcs]
      exact List.mem_cons_self

/-! ## 4. Magnitudes and numbers -/

/-- Reads the part of a literal after its sign. -/
def readUnsigned (negative : Bool) (body : List Char) : Except LiteralFault Binary64 :=
  match decimalOf? body with
  | some (coefficient, exponent) => .ok (ofDecimal negative coefficient exponent)
  | none =>
    match wordOf? negative body with
    | some x => .ok x
    | none => .error .malformed

theorem ofLiteral_eq {cs : List Char} (h : cs ≠ []) :
    ofLiteral cs = readUnsigned (takeSign cs).1 (takeSign cs).2 := by
  have hemp : cs.isEmpty = false := by simpa using h
  unfold ofLiteral
  rw [hemp]
  rfl

/-- The text of a magnitude is no sign, and reads as its rank. -/
theorem readMagnitude {rank : Nat} (h : rank ≤ topRank) :
    (∀ negative, readUnsigned negative (magnitudeChars rank) = .ok (ofRank negative rank)) ∧
      ∃ c cs, magnitudeChars rank = c :: cs ∧ c ≠ '-' ∧ c ≠ '+' := by
  unfold magnitudeChars
  by_cases htop : rank = topRank
  · rw [if_pos htop, htop]
    exact ⟨fun _ => rfl, 'i', ['n', 'f'], rfl, by decide, by decide⟩
  · rw [if_neg htop]
    by_cases hzero : rank = 0
    · rw [if_pos hzero, hzero]
      exact ⟨fun _ => rfl, '0', [], rfl, by decide, by decide⟩
    · rw [if_neg hzero]
      have hpos : 0 < rank := Nat.pos_of_ne_zero hzero
      have hfin : rank < topRank := Nat.lt_of_le_of_ne h htop
      have hreads := shortest_reads hpos hfin
      generalize shortest rank = d at hreads ⊢
      obtain ⟨coefficient, exponent⟩ := d
      dsimp only at hreads ⊢
      obtain ⟨⟨d, hd, hval⟩, c, cs, htext, hdigit⟩ :=
        decimalOf?_positional coefficient (hreads false).2
      refine ⟨fun negative => ?_, c, cs, htext, ?_, ?_⟩
      · unfold readUnsigned
        rw [hd]
        exact congrArg Except.ok ((hval negative).trans (hreads negative).1)
      · rintro rfl
        cases hdigit
      · rintro rfl
        cases hdigit

theorem takeSign_of_ne {c : Char} {cs : List Char} (hm : c ≠ '-') (hp : c ≠ '+') :
    takeSign (c :: cs) = (false, c :: cs) := by
  unfold takeSign
  split
  · rename_i heq
    cases heq
    exact absurd rfl hm
  · rename_i heq
    cases heq
    exact absurd rfl hp
  · rfl

/-- **The text of a number reads back as the number.** -/
theorem ofLiteral_toChars {x : Binary64} (h : x ≠ nan) : ofLiteral x.toChars = .ok x := by
  rcases x with _ | ⟨negative, rank⟩
  · exact absurd rfl h
  · have hle : rank.val ≤ topRank := Nat.le_of_lt_succ rank.isLt
    obtain ⟨hread, c, cs, htext, hm, hp⟩ := readMagnitude hle
    have hsigned : ∀ s, ofRank s rank.val = signed s rank := fun s => ofRank_of_le hle
    cases negative with
    | true =>
      rw [show toChars (signed true rank) = '-' :: magnitudeChars rank.val from rfl,
        ofLiteral_eq (List.cons_ne_nil _ _)]
      exact (hread true).trans (congrArg Except.ok (hsigned true))
    | false =>
      rw [show toChars (signed false rank) = magnitudeChars rank.val from rfl,
        ofLiteral_eq (by rw [htext]; exact List.cons_ne_nil _ _), htext, takeSign_of_ne hm hp,
        ← htext]
      exact (hread false).trans (congrArg Except.ok (hsigned false))

/-- The text of any number stays in the alphabet of literals. -/
theorem toChars_chars (x : Binary64) : ∀ c ∈ x.toChars, isLiteralChar c = true := by
  by_cases h : x = nan
  · rw [h]
    exact List.all_eq_true.1 (by decide)
  · exact ofLiteral_chars (ofLiteral_toChars h)

end ThresholdCheck.Binary64
