import ThresholdCheck.Text.Basic

/-!
# Text: what trimming does

* `trim_eq_nil_iff`: nothing is left exactly of a text of blanks;
* `reverse_dropWhile_append`: whatever is taken off the end of a text, of blanks or of others, it is
  no more than these;
* **`trim_eq_self_iff`**: a text is its own trimmed form exactly if it neither begins nor ends in a
  blank. Such are the texts without blanks (`trim_eq_self`), those that were trimmed before
  (`trim_trim`), and two such texts one after the other (`trim_append`).
-/

namespace ThresholdCheck.Text

/-! ## 1. Blanks at one end -/

theorem dropWhile_isBlank_eq_nil_iff {cs : List Char} :
    cs.dropWhile isBlank = [] ↔ ∀ c ∈ cs, isBlank c = true := by
  induction cs with
  | nil => simp
  | cons c cs ih =>
    by_cases hc : isBlank c = true
    · rw [List.dropWhile_cons_of_pos hc, ih, List.forall_mem_cons]
      exact ⟨fun h => ⟨hc, h⟩, fun h => h.2⟩
    · rw [List.dropWhile_cons_of_neg hc]
      exact ⟨fun h => absurd h (List.cons_ne_nil _ _), fun h => absurd (h c List.mem_cons_self) hc⟩

/-- The first character that is left after leading blanks are gone is no blank. -/
theorem isBlank_head_dropWhile {cs rest : List Char} {c : Char}
    (h : cs.dropWhile isBlank = c :: rest) : isBlank c = false := by
  induction cs with
  | nil => cases h
  | cons d ds ih =>
    by_cases hd : isBlank d = true
    · rw [List.dropWhile_cons_of_pos hd] at h
      exact ih h
    · rw [List.dropWhile_cons_of_neg hd] at h
      cases h
      simpa using hd

/-- Characters of a kind are taken off the end of a text up to the last one that is of another. -/
theorem reverse_dropWhile_append {p : Char → Bool} {front back : List Char}
    (hfront : ∀ c, front.getLast? = some c → p c = false) (hback : ∀ c ∈ back, p c = true) :
    ((front ++ back).reverse.dropWhile p).reverse = front := by
  have hpassed : ∀ c ∈ back.reverse, p c = true := fun c hc => hback c (List.mem_reverse.1 hc)
  rw [List.reverse_append, List.dropWhile_append_of_pos hpassed]
  cases hrest : front.reverse with
  | nil => exact (List.reverse_eq_nil_iff.1 hrest).symm
  | cons c rest =>
    have hlast : front.getLast? = some c := by
      rw [← List.head?_reverse, hrest]
      rfl
    rw [List.dropWhile_cons_of_neg (by simp [hfront c hlast]), ← hrest, List.reverse_reverse]

/-! ## 2. Blanks at both ends -/

/-- **Nothing is left exactly of a text of blanks.** -/
theorem trim_eq_nil_iff {cs : List Char} : trim cs = [] ↔ isBlankText cs = true := by
  unfold trim trimStart trimEnd isBlankText
  rw [List.reverse_eq_nil_iff, dropWhile_isBlank_eq_nil_iff, List.all_eq_true]
  constructor
  · intro h
    cases hrest : cs.dropWhile isBlank with
    | nil => exact dropWhile_isBlank_eq_nil_iff.1 hrest
    | cons c rest =>
      have hc := h c (by rw [hrest]; simp)
      rw [isBlank_head_dropWhile hrest] at hc
      cases hc
  · intro h c hc
    rw [dropWhile_isBlank_eq_nil_iff.2 h] at hc
    cases hc

/-- The first character that is left after trimming is no blank. -/
theorem isBlank_head?_trim {cs : List Char} {c : Char} (h : (trim cs).head? = some c) :
    isBlank c = false := by
  -- what is taken off the end leaves the head as it was
  have hfront : trim cs <+: trimStart cs := by
    have hend := List.dropWhile_suffix isBlank (l := (trimStart cs).reverse)
    rw [← List.reverse_prefix, List.reverse_reverse] at hend
    exact hend
  obtain ⟨back, hback⟩ := hfront
  obtain ⟨rest, hrest⟩ := List.head?_eq_some_iff.1 h
  rw [hrest, List.cons_append] at hback
  exact isBlank_head_dropWhile hback.symm

/-- The last one is none either. -/
theorem isBlank_getLast?_trim {cs : List Char} {c : Char} (h : (trim cs).getLast? = some c) :
    isBlank c = false := by
  unfold trim trimEnd at h
  rw [List.getLast?_reverse] at h
  obtain ⟨rest, hrest⟩ := List.head?_eq_some_iff.1 h
  exact isBlank_head_dropWhile hrest

/-- **A text is its own trimmed form exactly if it neither begins nor ends in a blank.** -/
theorem trim_eq_self_iff {cs : List Char} :
    trim cs = cs ↔ (∀ c, cs.head? = some c → isBlank c = false) ∧
      ∀ c, cs.getLast? = some c → isBlank c = false := by
  constructor
  · intro h
    rw [← h]
    exact ⟨fun c => isBlank_head?_trim, fun c => isBlank_getLast?_trim⟩
  · rintro ⟨hhead, hlast⟩
    have hstart : trimStart cs = cs := by
      cases cs with
      | nil => rfl
      | cons c cs => exact List.dropWhile_cons_of_neg (by rw [hhead c rfl]; decide)
    have hend : ((cs ++ []).reverse.dropWhile isBlank).reverse = cs :=
      reverse_dropWhile_append hlast fun c hc => absurd hc List.not_mem_nil
    rw [List.append_nil] at hend
    unfold trim
    rw [hstart]
    exact hend

theorem trim_trim (cs : List Char) : trim (trim cs) = trim cs :=
  trim_eq_self_iff.2 ⟨fun _ => isBlank_head?_trim, fun _ => isBlank_getLast?_trim⟩

/-- A text without blanks is its own trimmed form. -/
theorem trim_eq_self {cs : List Char} (h : ∀ c ∈ cs, isBlank c = false) : trim cs = cs :=
  trim_eq_self_iff.2
    ⟨fun c hc => h c (List.mem_of_head? hc), fun c hc => h c (List.mem_of_getLast? hc)⟩

/-- Trimmed texts one after the other are trimmed together. -/
theorem trim_append {front back : List Char} (hfront : trim front = front)
    (hback : trim back = back) : trim (front ++ back) = front ++ back := by
  obtain ⟨hfirst, hlast⟩ := trim_eq_self_iff.1 hfront
  obtain ⟨hfirst', hlast'⟩ := trim_eq_self_iff.1 hback
  refine trim_eq_self_iff.2 ⟨fun c hc => ?_, fun c hc => ?_⟩
  · rw [List.head?_append, Option.or_eq_some_iff] at hc
    rcases hc with hc | ⟨-, hc⟩
    · exact hfirst c hc
    · exact hfirst' c hc
  · rw [List.getLast?_append, Option.or_eq_some_iff] at hc
    rcases hc with hc | ⟨-, hc⟩
    · exact hlast' c hc
    · exact hlast c hc

/-- A character that is no blank, before a trimmed text, is trimmed with it. -/
theorem trim_cons_trim {c : Char} (hc : isBlank c = false) (cs : List Char) :
    trim (c :: trim cs) = c :: trim cs := by
  have hfirst : trim [c] = [c] := trim_eq_self fun d hd => by
    rw [List.mem_singleton.1 hd]
    exact hc
  exact trim_append hfirst (trim_trim cs)

end ThresholdCheck.Text
