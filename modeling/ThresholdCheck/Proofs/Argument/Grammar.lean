import Mathlib.Tactic.IntervalCases
import ThresholdCheck.Proofs.Argument.Numbers

/-!
# Which texts are arguments

An argument is a name, a `=`, a number and a unit (`Argument.Written`). The name has no `=`, the
number is made of `numeralChars` and the unit of others, so that no two arguments are written alike;
blanks around the name, and around number and unit, do not count.

* `Binary64.decimal_of_getLast?`: a number that ends like a decimal is one;
* `isNumberChar_of_getLast?`, `not_isNumberChar_of_mem`: how the part before the unit ends, and what
  the unit is made of;
* **`parse_eq_ok_iff`**: an argument is read from the texts that it is written as, and no others. So
  its name is one (`isName_of_parse`), and every name, number and unit make one
  (`parse_of_parts`).
-/

namespace ThresholdCheck

/-! ## 1. Decimals by their last character -/

namespace Binary64

variable {cs : List Char} {x : Binary64} {c : Char}

theorem isNaN_ofRank (negative : Bool) (rank : Nat) : (ofRank negative rank).isNaN = false := by
  unfold ofRank
  split
  · rfl
  · rfl

/-- A word ends in a letter that is no character of decimals. -/
theorem getLast?_of_wordOf? {negative : Bool} (h : wordOf? negative cs = some x)
    (hc : cs.getLast? = some c) : isDecimalChar c = false := by
  have hword : (cs.map Char.toLower).getLast? = some c.toLower := by
    rw [List.getLast?_map, hc]
    rfl
  apply not_isDecimalChar_of_mem_infinity
  unfold wordOf? at h
  dsimp only at h
  split at h
  · rename_i hspelled
    simp only [Bool.or_eq_true, decide_eq_true_eq] at hspelled
    rcases hspelled with hspelled | hspelled
    · rw [hspelled] at hword
      rw [← Option.some.inj hword]
      decide
    · rw [hspelled] at hword
      rw [← Option.some.inj hword]
      decide
  · split at h
    · rename_i hspelled
      rw [hspelled] at hword
      rw [← Option.some.inj hword]
      decide
    · cases h

/-- **A number that ends like a decimal is one.** -/
theorem decimal_of_getLast? (h : ofLiteral cs = .ok x) (hlast : cs.getLast? = some c)
    (hc : isDecimalChar c = true) : (∀ c ∈ cs, isDecimalChar c = true) ∧ x.isNaN = false := by
  rcases decimal_or_word h with ⟨d, hd⟩ | hword
  · refine ⟨takeSign_chars (by decide) (by decide) (decimalOf?_chars hd), ?_⟩
    rw [ofLiteral_eq (ofLiteral_ne_nil h)] at h
    unfold readUnsigned at h
    rw [hd] at h
    cases h
    obtain ⟨rank, hrank⟩ := ofDecimal_sign d.1 d.2
    rw [hrank]
    exact isNaN_ofRank _ _
  · -- the last character is that of the word behind the sign
    obtain ⟨sign, hcs, -⟩ := exists_sign cs
    have hbody : (takeSign cs).2 ≠ [] := by
      intro hnil
      rw [hnil] at hword
      cases hword
    rw [hcs, List.getLast?_append_of_ne_nil _ hbody] at hlast
    rw [getLast?_of_wordOf? hword hlast] at hc
    cases hc

end Binary64

namespace Argument

/-! ## 2. Numbers and units -/

/-- The characters that a number may have. -/
def numeralChars : List Char := "0123456789.+-eE".toList

theorem isNumberChar_iff {c : Char} : isNumberChar c = true ↔ c ∈ numeralChars := by
  constructor
  · intro h
    simp only [isNumberChar, Bool.or_eq_true, decide_eq_true_eq] at h
    rcases h with ((((hdigit | rfl) | rfl) | rfl) | rfl) | rfl
    · have hbounds : (decide (48 ≤ c.toNat) && decide (c.toNat ≤ 57)) = true := hdigit
      simp only [Bool.and_eq_true, decide_eq_true_eq] at hbounds
      obtain ⟨hlow, hhigh⟩ := hbounds
      have hc := Char.ofNat_toNat c
      interval_cases c.toNat <;> rw [← hc] <;> decide
    all_goals decide
  · exact fun h => List.all_eq_true.1 (by decide : numeralChars.all isNumberChar = true) c h

theorem not_isNumberChar_iff {c : Char} : isNumberChar c = false ↔ c ∉ numeralChars := by
  rw [← isNumberChar_iff, Bool.not_eq_true]

theorem not_isBlank_of_isNumberChar {c : Char} (h : isNumberChar c = true) :
    Text.isBlank c = false :=
  Binary64.not_isBlank_of_isLiteralChar (Binary64.isLiteralChar_of_isDecimalChar h)

/-- What stands before the unit ends in a character of numbers. -/
theorem isNumberChar_of_getLast? {text : List Char} {c : Char}
    (h : (splitUnit text).1.getLast? = some c) : isNumberChar c = true := by
  have hfirst := List.head?_dropWhile_not (fun c => !isNumberChar c) text.reverse
  unfold splitUnit at h
  rw [List.getLast?_reverse] at h
  rw [h] at hfirst
  simpa using hfirst

/-- The unit has none. -/
theorem not_isNumberChar_of_mem {text : List Char} {c : Char} (h : c ∈ (splitUnit text).2) :
    isNumberChar c = false := by
  have hc := List.all_eq_true.1 List.all_takeWhile c (List.mem_reverse.1 h)
  simpa using hc

/-! ## 3. Whole arguments -/

/-- The text is a name, a `=`, a number and a unit: those of the argument, with blanks around the
    name and around the rest or without. -/
def Written (text : String) (a : Argument) : Prop :=
  ∃ name value number, text.toList = name ++ '=' :: value ∧ '=' ∉ name ∧
    a.name ≠ "" ∧ Text.trim name = a.name.toList ∧
    Text.trim value = number ++ a.unit.toList ∧
    (∀ c ∈ number, c ∈ numeralChars) ∧ (∀ c ∈ a.unit.toList, c ∉ numeralChars) ∧
    Binary64.ofLiteral number = .ok a.value

theorem written_of_parse {text : String} {a : Argument} (h : parse text = .ok a) :
    Written text a := by
  obtain ⟨name, value, hcut, hne, hname, hread, -, hunit⟩ := parse_eq_ok h
  obtain ⟨htext, hequals⟩ := Text.cut_eq_some_iff.1 hcut
  have hvalue := splitUnit_append (Text.trim value)
  generalize hnumber : (splitUnit (Text.trim value)).1 = number at hread hvalue
  have hlast : ∀ c, number.getLast? = some c → isNumberChar c = true := by
    intro c hc
    rw [← hnumber] at hc
    exact isNumberChar_of_getLast? hc
  -- blanks around the value are gone already, so none are left around the number
  have htrimmed : Text.trim number = number := by
    refine Text.trim_eq_self_iff.2 ⟨fun c hc => ?_, fun c hc => ?_⟩
    · have hfirst : (Text.trim value).head? = some c := by
        rw [← hvalue, List.head?_append, hc]
        rfl
      exact Text.isBlank_head?_trim hfirst
    · exact not_isBlank_of_isNumberChar (hlast c hc)
  rw [htrimmed] at hread
  have hend := List.getLast?_eq_some_getLast (Binary64.ofLiteral_ne_nil hread)
  have hchars : ∀ c ∈ number, isNumberChar c = true :=
    (Binary64.decimal_of_getLast? hread hend (hlast _ hend)).1
  refine ⟨name, value, number, htext, hequals, ?_, ?_, ?_, ?_, ?_, hread⟩
  · intro hempty
    rw [hempty] at hname
    exact hne (String.ofList_eq_empty_iff.1 hname.symm)
  · rw [hname, String.toList_ofList]
  · rw [hunit, String.toList_ofList]
    exact hvalue.symm
  · exact fun c hc => isNumberChar_iff.1 (hchars c hc)
  · intro c hc
    rw [hunit, String.toList_ofList] at hc
    exact not_isNumberChar_iff.1 (not_isNumberChar_of_mem hc)

theorem parse_of_written {text : String} {a : Argument} (h : Written text a) :
    parse text = .ok a := by
  obtain ⟨name, value, number, htext, hequals, hne, hname, hvalue, hnumber, hunit, hread⟩ := h
  have hdecimal : ∀ c ∈ number, Binary64.isDecimalChar c = true := fun c hc =>
    isNumberChar_iff.2 (hnumber c hc)
  have hend := List.getLast?_eq_some_getLast (Binary64.ofLiteral_ne_nil hread)
  have hnan : a.value.isNaN = false :=
    (Binary64.decimal_of_getLast? hread hend (hdecimal _ (List.mem_of_getLast? hend))).2
  have hcut : Text.cut '=' text.toList = some (name, value) :=
    Text.cut_eq_some_iff.2 ⟨htext, hequals⟩
  have hne' : a.name.toList ≠ [] := fun hnil => hne (String.toList_eq_nil_iff.1 hnil)
  have hparts : ofParts a.name (number ++ a.unit.toList) =
      .ok ⟨a.name, a.value, String.ofList a.unit.toList⟩ :=
    ofParts_of_decimal hread hnan hdecimal fun c hc => not_isNumberChar_iff.2 (hunit c hc)
  unfold parse
  rw [hcut]
  dsimp only
  rw [hname, if_neg hne', String.ofList_toList, hvalue, hparts, String.ofList_toList]

/-- **An argument is read from the texts that it is written as, and from no others.** -/
theorem parse_eq_ok_iff {text : String} {a : Argument} : parse text = .ok a ↔ Written text a :=
  ⟨written_of_parse, parse_of_written⟩

/-! ## 4. Names and values -/

/-- The name of an argument is one. -/
theorem isName_of_parse {text : String} {a : Argument} (h : parse text = .ok a) :
    IsName a.name := by
  obtain ⟨name, value, number, -, -, hne, hname, -⟩ := written_of_parse h
  refine ⟨hne, ?_, equals_not_mem_name h⟩
  unfold Text.trimmed
  rw [← hname, Text.trim_trim, hname, String.ofList_toList]

/-- A number that is made of characters of numbers, and a unit that has none of them and no blanks
    around it. -/
structure IsValue (number unit : String) (x : Binary64) : Prop where
  read : Binary64.ofLiteral number.toList = .ok x
  numeral : ∀ c ∈ number.toList, c ∈ numeralChars
  separate : ∀ c ∈ unit.toList, c ∉ numeralChars
  trimmed : Text.trimmed unit = unit

/-- The test of characters by class. -/
theorem isValue_of_all {number unit : String} {x : Binary64}
    (hread : Binary64.ofLiteral number.toList = .ok x)
    (hnumber : number.toList.all isNumberChar = true)
    (hunit : (unit.toList.all fun c => !isNumberChar c) = true)
    (htrimmed : Text.trimmed unit = unit) : IsValue number unit x where
  read := hread
  numeral c hc := isNumberChar_iff.1 (List.all_eq_true.1 hnumber c hc)
  separate c hc := not_isNumberChar_iff.1 (by simpa using List.all_eq_true.1 hunit c hc)
  trimmed := htrimmed

/-- **A name, a number and a unit are written one after the other.** -/
theorem parse_of_parts {name number unit : String} {x : Binary64} (hname : IsName name)
    (h : IsValue number unit x) : parse (name ++ "=" ++ number ++ unit) = .ok ⟨name, x, unit⟩ := by
  refine parse_of_written ⟨name.toList, number.toList ++ unit.toList, number.toList, ?_,
    hname.equals, hname.nonempty, ?_, ?_, h.numeral, h.separate, h.read⟩
  · simp
  · rw [← Text.toList_trimmed, hname.trimmed]
  · have hnumber : Text.trim number.toList = number.toList :=
      Text.trim_eq_self (Binary64.not_isBlank_of_ofLiteral h.read)
    have hunit : Text.trim unit.toList = unit.toList := by rw [← Text.toList_trimmed, h.trimmed]
    exact Text.trim_append hnumber hunit

end Argument

end ThresholdCheck
