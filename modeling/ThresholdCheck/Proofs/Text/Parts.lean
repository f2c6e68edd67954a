import ThresholdCheck.Text.Basic

/-!
# Text: the parts between separators

* `not_mem_of_mem_splitOn`: no part of a text that was split has the separator in it;
* `length_splitOn`: there is one part more than there are separators;
* `splitOn_intercalate_iff`: what is joined comes apart into its parts exactly if no part has the
  separator in it;
* `mem_intercalate_iff`: apart from the separator, what is joined has the characters of its parts;
* `lineFeed_not_mem_of_mem_lines`: no line has a line feed in it, and trimming brings none
  (`mem_of_mem_trim`).
-/

namespace ThresholdCheck.Text

/-! ## 1. Splitting and joining -/

/-- No part of a text that was split has the separator in it. -/
theorem not_mem_of_mem_splitOn {sep : Char} {cs part : List Char} (h : part ∈ cs.splitOn sep) :
    sep ∉ part := by
  induction cs generalizing part with
  | nil =>
    rw [List.splitOn_nil, List.mem_singleton] at h
    rw [h]
    exact List.not_mem_nil
  | cons c cs ih =>
    rw [List.splitOn_cons_eq_if_modifyHead] at h
    by_cases hc : c = sep
    · rw [if_pos (beq_iff_eq.2 hc)] at h
      rcases List.mem_cons.1 h with rfl | h
      · exact List.not_mem_nil
      · exact ih h
    · rw [if_neg (by simpa using hc)] at h
      -- the first part takes the character, the others are those of the rest
      cases hparts : cs.splitOn sep with
      | nil => exact absurd hparts (List.splitOn_ne_nil sep cs)
      | cons first rest =>
        rw [hparts, List.modifyHead_cons] at h
        rcases List.mem_cons.1 h with rfl | h
        · have hfirst : sep ∉ first := ih (by rw [hparts]; exact List.mem_cons_self)
          rw [List.mem_cons, not_or]
          exact ⟨Ne.symm hc, hfirst⟩
        · exact ih (by rw [hparts]; exact List.mem_cons_of_mem _ h)

/-- There is one part more than there are separators. -/
theorem length_splitOn (sep : Char) (cs : List Char) :
    (cs.splitOn sep).length = cs.count sep + 1 := by
  induction cs with
  | nil => rfl
  | cons c cs ih =>
    rw [List.splitOn_cons_eq_if_modifyHead, List.count_cons]
    split
    · rw [List.length_cons, ih]
    · rw [List.length_modifyHead, ih, Nat.add_zero]

/-- Apart from the separator, what is joined has the characters of its parts. -/
theorem mem_intercalate_iff {sep c : Char} (hc : c ≠ sep) {parts : List (List Char)} :
    c ∈ [sep].intercalate parts ↔ ∃ part ∈ parts, c ∈ part := by
  induction parts with
  | nil => simp
  | cons part parts ih =>
    by_cases hparts : parts = []
    · subst hparts
      simp
    · rw [List.intercalate_cons_of_ne_nil hparts, List.mem_append, List.mem_append,
        List.mem_singleton, ih]
      simp [hc]

/-- What is joined comes apart into its parts exactly if none has the separator in it. -/
theorem splitOn_intercalate_iff {sep : Char} {parts : List (List Char)} (hne : parts ≠ []) :
    ([sep].intercalate parts).splitOn sep = parts ↔ ∀ part ∈ parts, sep ∉ part := by
  constructor
  · intro h part hpart
    rw [← h] at hpart
    exact not_mem_of_mem_splitOn hpart
  · intro h
    exact List.splitOn_intercalate sep h hne

/-! ## 2. Lines -/

theorem mem_of_mem_dropReturn {c : Char} {line : List Char} (h : c ∈ dropReturn line) :
    c ∈ line := by
  unfold dropReturn at h
  split at h
  · exact List.dropLast_subset _ h
  · exact h

/-- No line has a line feed in it. -/
theorem lineFeed_not_mem_of_mem_lines {cs line : List Char} (h : line ∈ lines cs) :
    '\n' ∉ line := by
  have hparts : ∀ part ∈ cs.splitOn '\n', '\n' ∉ part := fun part => not_mem_of_mem_splitOn
  have hended : ∀ l ∈ (cs.splitOn '\n').dropLast.map dropReturn, '\n' ∉ l := by
    intro l hl hmem
    obtain ⟨part, hpart, rfl⟩ := List.mem_map.1 hl
    exact hparts part (List.dropLast_subset _ hpart) (mem_of_mem_dropReturn hmem)
  unfold lines at h
  dsimp only at h
  split at h
  · exact hended line h
  · exact hended line h
  · rename_i last _ hlast
    rcases List.mem_append.1 h with h | h
    · exact hended line h
    · rw [List.mem_singleton.1 h]
      exact hparts last (List.mem_of_getLast? hlast)

/-- Trimming brings no character in. -/
theorem mem_of_mem_trim {c : Char} {cs : List Char} (h : c ∈ trim cs) : c ∈ cs := by
  unfold trim trimEnd trimStart at h
  have hend := (List.dropWhile_sublist isBlank).mem (List.mem_reverse.1 h)
  exact (List.dropWhile_sublist isBlank).mem (List.mem_reverse.1 hend)

end ThresholdCheck.Text
