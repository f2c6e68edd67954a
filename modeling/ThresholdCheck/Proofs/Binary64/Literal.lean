import ThresholdCheck.Binary64.Literal
import ThresholdCheck.Text.Basic

/-!
# Binary64: the characters of a literal

Whatever reads as a number is not empty and is made of ASCII letters, digits, points and signs:

* `isLiteralChar` is the alphabet, and `ofLiteral_chars` says that no literal leaves it;
* `isDecimalChar` is the alphabet of decimals, in which the only letter is that of the exponent
  (`decimalOf?_chars`);
* so no literal holds a blank (`not_isBlank_of_ofLiteral`) or a character outside of the alphabet,
  such as those that ranges and lists of ranges are put together with
  (`not_mem_of_ofLiteral`).
-/

namespace ThresholdCheck.Binary64

/-! ## 1. The alphabet -/

/-- The characters that a literal may have. -/
def isLiteralChar (c : Char) : Bool := c.isAlphanum || c == '.' || c == '+' || c == '-'

/-- The characters that a decimal may have. -/
def isDecimalChar (c : Char) : Bool :=
  c.isDigit || c == '.' || c == '+' || c == '-' || c == 'e' || c == 'E'

theorem isLiteralChar_of_isDigit {c : Char} (h : c.isDigit = true) : isLiteralChar c = true := by
  simp [isLiteralChar, Char.isAlphanum, h]

theorem isDecimalChar_of_isDigit {c : Char} (h : c.isDigit = true) : isDecimalChar c = true := by
  simp [isDecimalChar, h]

theorem isLiteralChar_of_isDecimalChar {c : Char} (h : isDecimalChar c = true) :
    isLiteralChar c = true := by
  simp only [isDecimalChar, Bool.or_eq_true, beq_iff_eq] at h
  rcases h with ((((h | rfl) | rfl) | rfl) | rfl) | rfl
  · exact isLiteralChar_of_isDigit h
  all_goals decide

/-- A character that becomes a small letter was a letter. -/
theorem isLiteralChar_of_isLower_toLower {c : Char} (h : c.toLower.isLower = true) :
    isLiteralChar c = true := by
  have halpha : c.isAlpha = true := by
    show (c.isUpper || c.isLower) = true
    by_cases hu : c.isUpper = true
    · rw [hu, Bool.true_or]
    · have hlow : c.toLower = c := dif_neg fun hb => hu (decide_eq_true hb)
      rw [hlow] at h
      rw [h, Bool.or_true]
  simp [isLiteralChar, Char.isAlphanum, halpha]

/-- Letters lie between `A` and `z`. -/
theorem toNat_of_isAlpha {c : Char} (h : c.isAlpha = true) : 65 ≤ c.toNat ∧ c.toNat ≤ 122 := by
  have hcase : (c.isUpper || c.isLower) = true := h
  rcases Bool.or_eq_true_iff.1 hcase with hu | hl
  · have hbounds : 65 ≤ c.toNat ∧ c.toNat ≤ 90 := of_decide_eq_true hu
    omega
  · have hbounds : (decide (97 ≤ c.toNat) && decide (c.toNat ≤ 122)) = true := hl
    simp only [Bool.and_eq_true, decide_eq_true_eq] at hbounds
    omega

theorem not_isBlank_of_isLiteralChar {c : Char} (h : isLiteralChar c = true) :
    Text.isBlank c = false := by
  have hn : 43 ≤ c.toNat ∧ c.toNat ≤ 122 := by
    simp only [isLiteralChar, Char.isAlphanum, Bool.or_eq_true, beq_iff_eq] at h
    rcases h with ((((h | h) | rfl) | rfl) | rfl)
    · have hletter := toNat_of_isAlpha h
      omega
    · have hdigit : (decide (48 ≤ c.toNat) && decide (c.toNat ≤ 57)) = true := h
      simp only [Bool.and_eq_true, decide_eq_true_eq] at hdigit
      omega
    · decide
    · decide
    · decide
  unfold Text.isBlank
  simp only [Bool.or_eq_false_iff, Bool.and_eq_false_iff, decide_eq_false_iff_not,
    beq_eq_false_iff_ne]
  omega

/-! ## 2. Pieces of a literal -/

/-- A row of digits stays in the alphabet. -/
theorem digits_chars {cs : List Char} (h : cs.all Char.isDigit = true) :
    ∀ c ∈ cs, isDecimalChar c = true := fun c hc =>
  isDecimalChar_of_isDigit (List.all_eq_true.1 h c hc)

/-- What holds of the signs and of what follows a sign holds of all characters. -/
theorem takeSign_chars {p : Char → Prop} (minus : p '-') (plus : p '+') {cs : List Char}
    (h : ∀ c ∈ (takeSign cs).2, p c) : ∀ c ∈ cs, p c := by
  unfold takeSign at h
  split at h
  · exact List.forall_mem_cons.2 ⟨minus, h⟩
  · exact List.forall_mem_cons.2 ⟨plus, h⟩
  · exact h

theorem exponentOf?_chars {cs : List Char} {e : Int} (h : exponentOf? cs = some e) :
    ∀ c ∈ cs, isDecimalChar c = true := by
  refine takeSign_chars (by decide) (by decide) ?_
  unfold exponentOf? at h
  dsimp only at h
  split at h
  · cases h
  · rename_i hd
    simp only [Bool.or_eq_true, Bool.not_eq_true', not_or, Bool.not_eq_false] at hd
    exact digits_chars hd.2

/-- The rest of a decimal after its digits: nothing, or a letter and an exponent. -/
theorem decimalTail_chars {rest : List Char} {coefficient places : Nat} {d : Nat × Int}
    (h : (match rest with
      | [] => some (coefficient, -(places : Int))
      | c :: r =>
        if c = 'e' || c = 'E' then (exponentOf? r).map fun e => (coefficient, e - (places : Int))
        else none) = some d) : ∀ c ∈ rest, isDecimalChar c = true := by
  split at h
  · simp
  · split at h
    · rename_i c r hc
      obtain ⟨e, he, -⟩ := Option.map_eq_some_iff.1 h
      have hletter : isDecimalChar c = true := by
        simp only [Bool.or_eq_true, decide_eq_true_eq] at hc
        rcases hc with rfl | rfl <;> decide
      exact List.forall_mem_cons.2 ⟨hletter, exponentOf?_chars he⟩
    · cases h

theorem chars_of_takeWhile_dropWhile {cs : List Char}
    (h : ∀ c ∈ cs.dropWhile Char.isDigit, isDecimalChar c = true) :
    ∀ c ∈ cs, isDecimalChar c = true := by
  rw [← List.takeWhile_append_dropWhile (p := Char.isDigit) (l := cs)]
  intro c hc
  rcases List.mem_append.1 hc with hc | hc
  · exact digits_chars List.all_takeWhile c hc
  · exact h c hc

theorem decimalOf?_chars {cs : List Char} {d : Nat × Int} (h : decimalOf? cs = some d) :
    ∀ c ∈ cs, isDecimalChar c = true := by
  apply chars_of_takeWhile_dropWhile
  unfold decimalOf? at h
  dsimp only at h
  generalize cs.dropWhile Char.isDigit = afterWhole at h ⊢
  split at h
  · dsimp only at h
    split at h
    · cases h
    · exact List.forall_mem_cons.2 ⟨by decide, chars_of_takeWhile_dropWhile (decimalTail_chars h)⟩
  · dsimp only at h
    split at h
    · cases h
    · exact decimalTail_chars h

theorem wordOf?_chars {negative : Bool} {cs : List Char} {x : Binary64}
    (h : wordOf? negative cs = some x) : ∀ c ∈ cs, isLiteralChar c = true := by
  have hlower : ∀ c ∈ cs.map Char.toLower, c.isLower = true := by
    unfold wordOf? at h
    dsimp only at h
    split at h
    · rename_i hw
      simp only [Bool.or_eq_true, decide_eq_true_eq] at hw
      rcases hw with hw | hw <;> rw [hw] <;> exact List.all_eq_true.1 (by decide)
    · split at h
      · rename_i hw
        rw [hw]
        exact List.all_eq_true.1 (by decide)
      · cases h
  exact fun c hc => isLiteralChar_of_isLower_toLower (hlower _ (List.mem_map_of_mem hc))

/-! ## 3. Literals -/

theorem ofLiteral_ne_nil {cs : List Char} {x : Binary64} (h : ofLiteral cs = .ok x) : cs ≠ [] := by
  rintro rfl
  cases h

/-- What reads as a number is a decimal or a word after its sign. -/
theorem decimal_or_word {cs : List Char} {x : Binary64} (h : ofLiteral cs = .ok x) :
    (∃ d, decimalOf? (takeSign cs).2 = some d) ∨
      wordOf? (takeSign cs).1 (takeSign cs).2 = some x := by
  unfold ofLiteral at h
  split at h
  · cases h
  · dsimp only at h
    split at h
    · rename_i hd
      exact .inl ⟨_, hd⟩
    · split at h
      · rename_i hw
        cases h
        exact .inr hw
      · cases h

/-- **A literal stays in its alphabet.** -/
theorem ofLiteral_chars {cs : List Char} {x : Binary64} (h : ofLiteral cs = .ok x) :
    ∀ c ∈ cs, isLiteralChar c = true := by
  refine takeSign_chars (by decide) (by decide) ?_
  rcases decimal_or_word h with ⟨d, hd⟩ | hw
  · exact fun c hc => isLiteralChar_of_isDecimalChar (decimalOf?_chars hd c hc)
  · exact wordOf?_chars hw

theorem not_mem_of_ofLiteral {cs : List Char} {x : Binary64} (h : ofLiteral cs = .ok x) {c : Char}
    (hc : isLiteralChar c = false) : c ∉ cs := by
  intro hm
  rw [ofLiteral_chars h c hm] at hc
  cases hc

theorem not_isBlank_of_ofLiteral {cs : List Char} {x : Binary64} (h : ofLiteral cs = .ok x) :
    ∀ c ∈ cs, Text.isBlank c = false := fun c hc =>
  not_isBlank_of_isLiteralChar (ofLiteral_chars h c hc)

end ThresholdCheck.Binary64
