import ThresholdCheck.Proofs.Argument
import ThresholdCheck.Proofs.Binary64.RoundTrip
import ThresholdCheck.Proofs.Fallible
import ThresholdCheck.Proofs.Text.Trimming

/-!
# Which numbers an argument can give

An argument is cut before its number is read: what follows the last character that a number may have
is its unit. A decimal is made of such characters, so it stays whole. A word is not, so an infinity
that is spelled out is taken for a unit without a number, although it reads as a number, and is the
text that an infinite value is written as.

* `Binary64.decimal_or_infinity`: a number that is read is a decimal or a spelled-out infinity, and
  `Binary64.ofLiteral_of_spellsInfinity`: each of these is read;
* `splitUnit_of_chars`: characters of numbers and others after them come apart between them;
* `ofParts_of_number`: so a decimal is the value of its argument, and a spelled-out infinity is not;
* **`parse_numbers`**: an argument gives a number exactly if it is no spelled-out infinity.
-/

namespace ThresholdCheck

namespace Binary64

/-! ## 1. Decimals and infinities -/

/-- Whether a text is a word of infinity, after a sign or without one. -/
def spellsInfinity (cs : List Char) : Bool :=
  let word := (takeSign cs).2.map Char.toLower
  word = ['i', 'n', 'f'] || word = ['i', 'n', 'f', 'i', 'n', 'i', 't', 'y']

variable {cs : List Char} {x : Binary64}

/-- A number that is read is a decimal, or an infinity that is spelled out. -/
theorem decimal_or_infinity (h : ofLiteral cs = .ok x) (hx : x ≠ nan) :
    (∀ c ∈ cs, isDecimalChar c = true) ∨ spellsInfinity cs = true := by
  rcases decimal_or_word h with ⟨d, hd⟩ | hword
  · exact .inl (takeSign_chars (by decide) (by decide) (decimalOf?_chars hd))
  · unfold wordOf? at hword
    dsimp only at hword
    split at hword
    · rename_i hspelled
      exact .inr hspelled
    · split at hword
      · cases hword
        exact absurd rfl hx
      · cases hword

/-- Before the part that follows the sign stands a sign at most. -/
theorem exists_sign (cs : List Char) :
    ∃ sign, cs = sign ++ (takeSign cs).2 ∧ (sign = [] ∨ sign = ['-'] ∨ sign = ['+']) := by
  unfold takeSign
  split
  · exact ⟨['-'], rfl, .inr (.inl rfl)⟩
  · exact ⟨['+'], rfl, .inr (.inr rfl)⟩
  · exact ⟨[], rfl, .inl rfl⟩

/-- The letters of infinity are no characters of decimals. -/
theorem not_isDecimalChar_of_mem_infinity {c : Char}
    (h : c.toLower ∈ ['i', 'n', 'f', 'i', 'n', 'i', 't', 'y']) : isDecimalChar c = false := by
  cases hc : isDecimalChar c with
  | false => rfl
  | true =>
    exfalso
    simp only [isDecimalChar, Bool.or_eq_true, beq_iff_eq] at hc
    rcases hc with ((((hdigit | rfl) | rfl) | rfl) | rfl) | rfl
    · -- a digit is its own small letter
      have hlow : c.toLower = c := by
        have hbounds : (decide (48 ≤ c.toNat) && decide (c.toNat ≤ 57)) = true := hdigit
        simp only [Bool.and_eq_true, decide_eq_true_eq] at hbounds
        refine dif_neg fun hupper => ?_
        have hletter : 65 ≤ c.toNat := hupper.1
        omega
      have hnone : (['i', 'n', 'f', 'i', 'n', 'i', 't', 'y'].all fun d => !d.isDigit) = true := by
        decide
      rw [hlow] at h
      have hno := List.all_eq_true.1 hnone c h
      rw [hdigit] at hno
      cases hno
    all_goals exact absurd h (by decide)

/-- What follows the sign of a spelled-out infinity has no character of decimals. -/
theorem spellsInfinity_chars (h : spellsInfinity cs = true) :
    (takeSign cs).2 ≠ [] ∧ ∀ c ∈ (takeSign cs).2, isDecimalChar c = false := by
  unfold spellsInfinity at h
  simp only [Bool.or_eq_true, decide_eq_true_eq] at h
  constructor
  · intro hnil
    rw [hnil] at h
    rcases h with h | h <;> cases h
  · intro c hc
    have hlower : c.toLower ∈ (takeSign cs).2.map Char.toLower := List.mem_map_of_mem hc
    apply not_isDecimalChar_of_mem_infinity
    rcases h with h | h
    · rw [h] at hlower
      exact List.mem_of_mem_take (i := 3) hlower
    · rw [h] at hlower
      exact hlower

/-- **An infinity that is spelled out is read.** -/
theorem ofLiteral_of_spellsInfinity (h : spellsInfinity cs = true) :
    ofLiteral cs = .ok (ofRank (takeSign cs).1 topRank) := by
  obtain ⟨hbody, hchars⟩ := spellsInfinity_chars h
  have hne : cs ≠ [] := by
    rintro rfl
    exact hbody rfl
  have hdecimal : decimalOf? (takeSign cs).2 = none := by
    cases hd : decimalOf? (takeSign cs).2 with
    | none => rfl
    | some d =>
      obtain ⟨c, hc⟩ := List.exists_mem_of_ne_nil _ hbody
      have hdec := decimalOf?_chars hd c hc
      rw [hchars c hc] at hdec
      cases hdec
  have hspelled : wordOf? (takeSign cs).1 (takeSign cs).2 = some (ofRank (takeSign cs).1 topRank) :=
    if_pos h
  rw [ofLiteral_eq hne]
  unfold readUnsigned
  rw [hdecimal]
  dsimp only
  rw [hspelled]

/-- Of the texts that numbers are written as, those of the infinities are spelled out. -/
theorem spellsInfinity_toChars (hx : x ≠ nan) :
    spellsInfinity x.toChars = true ↔ x = infinity ∨ x = negInfinity := by
  constructor
  · intro h
    have hread := ofLiteral_of_spellsInfinity h
    rw [ofLiteral_toChars hx] at hread
    cases hsign : (takeSign x.toChars).1 with
    | false => exact .inl (by rw [hsign] at hread; exact Except.ok.inj hread)
    | true => exact .inr (by rw [hsign] at hread; exact Except.ok.inj hread)
  · rintro (rfl | rfl)
    · rfl
    · rfl

end Binary64

namespace Argument

variable {name : String} {cs number unit : List Char} {x : Binary64}

/-! ## 2. The cut before the unit -/

/-- **Characters of numbers and others after them come apart between them.** -/
theorem splitUnit_of_chars (hnumber : ∀ c ∈ number, isNumberChar c = true)
    (hunit : ∀ c ∈ unit, isNumberChar c = false) : splitUnit (number ++ unit) = (number, unit) := by
  have hfirst : (splitUnit (number ++ unit)).1 = number := by
    refine Text.reverse_dropWhile_append (fun c hc => ?_) (fun c hc => ?_)
    · rw [hnumber c (List.mem_of_getLast? hc)]
      rfl
    · rw [hunit c hc]
      rfl
  -- nothing is lost between the two, so the rest is the unit
  have hall := splitUnit_append (number ++ unit)
  rw [hfirst] at hall
  exact Prod.ext hfirst (List.append_cancel_left hall)

/-- A number may have the characters of decimals, and no others. -/
theorem isNumberChar_eq (c : Char) : isNumberChar c = Binary64.isDecimalChar c := rfl

/-! ## 3. The number of an argument -/

/-- A decimal and a unit after it come apart into the value and the unit. -/
theorem ofParts_of_decimal (hread : Binary64.ofLiteral number = .ok x) (hx : x.isNaN = false)
    (hdecimal : ∀ c ∈ number, Binary64.isDecimalChar c = true)
    (hunit : ∀ c ∈ unit, isNumberChar c = false) :
    ofParts name (number ++ unit) = .ok ⟨name, x, String.ofList unit⟩ := by
  have hnumber : ∀ c ∈ number, isNumberChar c = true := fun c hc => by
    rw [isNumberChar_eq]
    exact hdecimal c hc
  unfold ofParts Measurement.parse
  rw [splitUnit_of_chars hnumber hunit]
  dsimp only
  rw [String.toList_ofList, Text.trim_eq_self (Binary64.not_isBlank_of_ofLiteral hread), hread]
  dsimp only
  rw [hx]
  rfl

/-- Of a spelled-out infinity, nothing but the sign is taken for the number. -/
theorem ofParts_of_infinity (h : Binary64.spellsInfinity cs = true) :
    ofParts name cs = .error (.notNumeric name (String.ofList cs)) := by
  obtain ⟨-, hword⟩ := Binary64.spellsInfinity_chars h
  obtain ⟨sign, hcs, hsign⟩ := Binary64.exists_sign cs
  have hnumber : sign.all isNumberChar = true := by
    rcases hsign with rfl | rfl | rfl <;> rfl
  have hunit : ∀ c ∈ (Binary64.takeSign cs).2, isNumberChar c = false := fun c hc => by
    rw [isNumberChar_eq]
    exact hword c hc
  have hsplit := splitUnit_of_chars (List.all_eq_true.1 hnumber) hunit
  rw [← hcs] at hsplit
  have hrefused : ∃ fault, Measurement.parse name (String.ofList sign) = .error fault := by
    rcases hsign with rfl | rfl | rfl
    · exact ⟨_, rfl⟩
    · exact ⟨_, rfl⟩
    · exact ⟨_, rfl⟩
  obtain ⟨fault, hfault⟩ := hrefused
  unfold ofParts
  rw [hsplit]
  dsimp only
  rw [hfault]

/-- **A decimal is the value of its argument, and a spelled-out infinity is not.** -/
theorem ofParts_of_number (hread : Binary64.ofLiteral cs = .ok x) (hx : x.isNaN = false) :
    ofParts name cs =
      if Binary64.spellsInfinity cs then .error (.notNumeric name (String.ofList cs))
      else .ok ⟨name, x, ""⟩ := by
  cases hspelled : Binary64.spellsInfinity cs with
  | true => exact ofParts_of_infinity hspelled
  | false =>
    have hnan : x ≠ .nan := by
      rintro rfl
      cases hx
    have hdecimal : ∀ c ∈ cs, Binary64.isDecimalChar c = true := by
      rcases Binary64.decimal_or_infinity hread hnan with h | h
      · exact h
      · rw [hspelled] at h
        cases h
    -- such a text is all number, and no unit is left
    have hall : ofParts name (cs ++ []) = .ok ⟨name, x, ""⟩ :=
      ofParts_of_decimal hread hx hdecimal fun c hc => absurd hc List.not_mem_nil
    rw [List.append_nil] at hall
    exact hall

/-- A name as arguments give it: before the first `=`, and without blanks around it. -/
structure IsName (name : String) : Prop where
  nonempty : name ≠ ""
  trimmed : Text.trimmed name = name
  equals : '=' ∉ name.toList

/-- What follows a name and a `=` is the text of the argument. -/
theorem parse_of_name (hname : IsName name) (text : String) :
    parse (name ++ "=" ++ text) = ofParts name (Text.trim text.toList) := by
  have hcut : Text.cut '=' (name ++ "=" ++ text).toList = some (name.toList, text.toList) := by
    rw [Text.cut_eq_some_iff, String.toList_append, String.toList_append, List.append_assoc]
    exact ⟨rfl, hname.equals⟩
  have htrim : Text.trim name.toList = name.toList := by
    rw [← Text.toList_trimmed, hname.trimmed]
  have hne : name.toList ≠ [] := fun h => hname.nonempty (String.toList_eq_nil_iff.1 h)
  unfold parse
  rw [hcut]
  dsimp only
  rw [htrim, if_neg hne, String.ofList_toList]

/-- What nothing is declared of is measured plainly. -/
theorem measurement_plain {config : Config} (h : config.metric? name = none) (x : Binary64) :
    measurement ⟨name, x, ""⟩ config = .plain name x := by
  unfold measurement
  dsimp only
  rw [h]
  rfl

/-- **An argument gives every number but a spelled-out infinity.** Of a text that reads as a
    measurement, the argument of the same name and text comes to this measurement wherever nothing
    is declared of the name; if the text spells out an infinity, it is refused as no number. So a
    value can be given back as it was written, unless it is infinite. -/
theorem parse_numbers (hname : IsName name) :
    (∀ text m, Measurement.parse name text = .ok m →
      (parse (name ++ "=" ++ text) =
        if Binary64.spellsInfinity (Text.trim text.toList) then
          .error (.notNumeric name (Text.trimmed text))
        else .ok ⟨name, m.value, ""⟩) ∧
      ∀ config, config.metric? name = none → measurement ⟨name, m.value, ""⟩ config = m) ∧
    ∀ x, x ≠ .nan → parse (name ++ "=" ++ x.text) =
      if x = .infinity ∨ x = .negInfinity then .error (.notNumeric name x.text)
      else .ok ⟨name, x, ""⟩ := by
  constructor
  · intro text m h
    obtain ⟨x, hread, hnan, rfl⟩ := Measurement.parse_eq_ok h
    refine ⟨?_, fun config hconfig => measurement_plain hconfig x⟩
    rw [parse_of_name hname, ofParts_of_number hread hnan]
    rfl
  · intro x hx
    have hread := Binary64.ofLiteral_toChars hx
    have hnan : x.isNaN = false := by
      rw [← Bool.not_eq_true, Binary64.isNaN_iff]
      exact hx
    have htrim : Text.trim x.text.toList = x.toChars := by
      rw [Binary64.toList_text, Text.trim_eq_self (Binary64.not_isBlank_of_ofLiteral hread)]
    rw [parse_of_name hname, htrim, ofParts_of_number hread hnan]
    simp only [Binary64.spellsInfinity_toChars hx]
    rfl

/-- A sign and an exponent belong to a number, blanks around it do not. A number that is too large
    is infinite, and as it is written then, it cannot be given back. -/
theorem parse_numbers_exponent :
    IsName "rx" ∧ Measurement.parse "rx" " +1.5e3 " = .ok (.plain "rx" (.ofDecimal false 15 2)) ∧
    parse ("rx" ++ "=" ++ " +1.5e3 ") = .ok ⟨"rx", .ofDecimal false 15 2, ""⟩ ∧
    parse ("rx" ++ "=" ++ "1e999") = .ok ⟨"rx", .infinity, ""⟩ ∧
    parse ("rx" ++ "=" ++ Binary64.infinity.text) =
      .error (.notNumeric "rx" Binary64.infinity.text) := by
  have hname : IsName "rx" := ⟨by decide, by decide, by decide⟩
  have hread : Measurement.parse "rx" " +1.5e3 " = .ok (.plain "rx" (.ofDecimal false 15 2)) :=
    eq_ok_of_toOption (by decide +kernel)
  have hlarge : Measurement.parse "rx" "1e999" = .ok (.plain "rx" .infinity) :=
    eq_ok_of_toOption (by decide +kernel)
  have hplain : Binary64.spellsInfinity (Text.trim " +1.5e3 ".toList) = false := by decide
  have hdigits : Binary64.spellsInfinity (Text.trim "1e999".toList) = false := by decide
  obtain ⟨hnumbers, hwritten⟩ := parse_numbers hname
  have hgiven := (hnumbers _ _ hread).1
  have hgiven' := (hnumbers _ _ hlarge).1
  rw [hplain, if_neg (by decide)] at hgiven
  rw [hdigits, if_neg (by decide)] at hgiven'
  dsimp only [Measurement.plain] at hgiven hgiven'
  exact ⟨hname, hread, hgiven, hgiven', (hwritten .infinity (by decide)).trans (if_pos (.inl rfl))⟩

/-- An infinity is a measurement and no argument, although nothing is declared of its name, and
    although an infinite value is written like this. -/
theorem parse_infinity_refused :
    IsName "x" ∧ Measurement.parse "x" "inf" = .ok (.plain "x" .infinity) ∧
    Config.default.metric? "x" = none ∧ Binary64.infinity.text = "inf" ∧
    parse ("x" ++ "=" ++ "inf") = .error (.notNumeric "x" "inf") := by
  have hname : IsName "x" := ⟨by decide, by decide, by decide⟩
  have hread : Measurement.parse "x" "inf" = .ok (.plain "x" .infinity) :=
    eq_ok_of_toOption (by decide +kernel)
  refine ⟨hname, hread, rfl, rfl, ?_⟩
  rw [parse_of_name hname]
  exact ofParts_of_infinity (by decide)

end Argument

end ThresholdCheck
