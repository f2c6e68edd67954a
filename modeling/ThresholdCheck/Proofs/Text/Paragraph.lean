import Mathlib.Data.List.Basic
import Mathlib.Data.List.TakeWhile
import ThresholdCheck.Proofs.Text.Parts
import ThresholdCheck.Proofs.Text.Trimming

/-!
# Text: lines and their first block

Lines are taken without the blanks around them (`rows`), and those that are blank part the others
into blocks.

* `FirstBlock`: the first block of a list, as long as it goes; **`firstBlock_iff`**: it is found by
  passing over the blank elements and then taking up to the next one;
* `FirstBlock.prepend`, `FirstBlock.append`: blank elements before the list and, unless the block is
  empty, whatever begins with a blank element behind the list leave the first block as it is;
* **`rows_append`**: a line feed parts the rows before it from those after it;
* `trim_intercalate`: trimmed texts that are joined are trimmed together.
-/

namespace ThresholdCheck.Text

/-! ## 1. The first block -/

section

variable {α β : Type} {blank : α → Bool} {xs block : List α}

/-- The first elements in a row that are not blank, as many as there are. Only blank ones come before
    them, and a blank one or none comes after them. -/
def FirstBlock (blank : α → Bool) (xs block : List α) : Prop :=
  ∃ before after, xs = before ++ (block ++ after) ∧ (∀ x ∈ before, blank x = true) ∧
    (∀ x ∈ block, blank x = false) ∧ (∀ x, after.head? = some x → blank x = true) ∧
    (block = [] → after = [])

/-- **The first block is found by passing over the blank elements.** -/
theorem firstBlock_iff :
    FirstBlock blank xs block ↔ block = (xs.dropWhile blank).takeWhile fun x => !blank x := by
  constructor
  · intro h
    obtain ⟨before, after, rfl, hbefore, hblock, hafter, hnone⟩ := h
    rw [List.dropWhile_append_of_pos hbefore]
    cases block with
    | nil =>
      rw [hnone rfl]
      rfl
    | cons b bs =>
      have hb : ¬blank b = true := by rw [hblock b List.mem_cons_self]; decide
      have htaken : ∀ x ∈ b :: bs, (!blank x) = true := by
        intro x hx
        rw [hblock x hx]
        rfl
      have hstops : after.takeWhile (fun x => !blank x) = [] := by
        cases after with
        | nil => rfl
        | cons a as => rw [List.takeWhile_cons_of_neg (by rw [hafter a rfl]; decide)]
      rw [List.cons_append, List.dropWhile_cons_of_neg hb, ← List.cons_append,
        List.takeWhile_append_of_pos htaken, hstops, List.append_nil]
  · intro h
    let rest := xs.dropWhile blank
    refine ⟨xs.takeWhile blank, rest.dropWhile fun x => !blank x, ?_, ?_, ?_, ?_, ?_⟩
    · rw [h, List.takeWhile_append_dropWhile, List.takeWhile_append_dropWhile]
    · exact fun x => List.mem_takeWhile_imp
    · intro x hx
      rw [h] at hx
      simpa using List.mem_takeWhile_imp hx
    · intro x hx
      have hstop := List.head?_dropWhile_not (fun x => !blank x) rest
      rw [hx] at hstop
      simpa using hstop
    · intro hempty
      -- what is passed over is followed by an element that is not blank, or by nothing
      have hrest := List.head?_dropWhile_not blank xs
      cases hxs : xs.dropWhile blank with
      | nil =>
        show (xs.dropWhile blank).dropWhile _ = []
        rw [hxs]
        rfl
      | cons x rest =>
        rw [hxs] at hrest h
        rw [h, List.takeWhile_cons_of_pos (by simpa using hrest)] at hempty
        cases hempty

theorem FirstBlock.map {blank : β → Bool} {f : α → β} (h : FirstBlock (blank ∘ f) xs block) :
    FirstBlock blank (xs.map f) (block.map f) := by
  obtain ⟨before, after, rfl, hbefore, hblock, hafter, hnone⟩ := h
  refine ⟨before.map f, after.map f, by rw [List.map_append, List.map_append],
    List.forall_mem_map.2 hbefore, List.forall_mem_map.2 hblock, ?_, ?_⟩
  · intro y hy
    rw [List.head?_map, Option.map_eq_some_iff] at hy
    obtain ⟨x, hx, rfl⟩ := hy
    exact hafter x hx
  · intro hempty
    rw [hnone (List.map_eq_nil_iff.1 hempty), List.map_nil]

/-- Blank elements before the list are passed over. -/
theorem FirstBlock.prepend {front : List α} (hfront : ∀ x ∈ front, blank x = true)
    (h : FirstBlock blank xs block) : FirstBlock blank (front ++ xs) block := by
  obtain ⟨before, after, rfl, hbefore, hblock, hafter, hnone⟩ := h
  refine ⟨front ++ before, after, by rw [List.append_assoc], ?_, hblock, hafter, hnone⟩
  intro x hx
  rcases List.mem_append.1 hx with hx | hx
  · exact hfront x hx
  · exact hbefore x hx

/-- What begins with a blank element does not continue a block. -/
theorem FirstBlock.append {back : List α} (hback : ∀ x, back.head? = some x → blank x = true)
    (hne : block ≠ []) (h : FirstBlock blank xs block) : FirstBlock blank (xs ++ back) block := by
  obtain ⟨before, after, rfl, hbefore, hblock, hafter, -⟩ := h
  refine ⟨before, after ++ back, by simp only [List.append_assoc], hbefore, hblock, ?_,
    fun hempty => absurd hempty hne⟩
  intro x hx
  rw [List.head?_append, Option.or_eq_some_iff] at hx
  rcases hx with hx | ⟨-, hx⟩
  · exact hafter x hx
  · exact hback x hx

/-- There is no block exactly where all is blank. -/
theorem FirstBlock.eq_nil_iff (h : FirstBlock blank xs block) :
    block = [] ↔ ∀ x ∈ xs, blank x = true := by
  obtain ⟨before, after, rfl, hbefore, hblock, -, hnone⟩ := h
  constructor
  · intro hempty
    rw [hnone hempty, hempty, List.nil_append, List.append_nil]
    exact hbefore
  · intro hall
    refine List.eq_nil_iff_forall_not_mem.2 fun x hx => ?_
    have hblank : blank x = true :=
      hall x (List.mem_append_right _ (List.mem_append_left _ hx))
    rw [hblock x hx] at hblank
    cases hblank

end

/-! ## 2. Trimming -/

/-- Blanks at the end are trimmed off. -/
theorem trim_append_blank (cs : List Char) {blanks : List Char} (h : isBlankText blanks = true) :
    trim (cs ++ blanks) = trim cs := by
  have hblanks : ∀ c ∈ blanks, isBlank c = true := List.all_eq_true.1 h
  by_cases hcs : isBlankText cs = true
  · have hall : isBlankText (cs ++ blanks) = true := by
      unfold isBlankText at hcs h ⊢
      rw [List.all_append, hcs, h]
      rfl
    rw [trim_eq_nil_iff.2 hall, trim_eq_nil_iff.2 hcs]
  · have hstart : trimStart (cs ++ blanks) = trimStart cs ++ blanks := by
      have hne : trimStart cs ≠ [] := fun hnil =>
        hcs (List.all_eq_true.2 (dropWhile_isBlank_eq_nil_iff.1 hnil))
      unfold trimStart at hne ⊢
      rw [List.dropWhile_append, if_neg (by simpa using hne)]
    unfold trim
    rw [hstart]
    unfold trimEnd
    rw [List.reverse_append, List.dropWhile_append_of_pos]
    exact fun c hc => hblanks c (List.mem_reverse.1 hc)

theorem trim_dropReturn (line : List Char) : trim (dropReturn line) = trim line := by
  unfold dropReturn
  split
  · rename_i hlast
    obtain ⟨init, rfl⟩ := List.getLast?_eq_some_iff.1 hlast
    rw [List.dropLast_concat]
    exact (trim_append_blank init (by decide)).symm
  · rfl

/-- A text that begins with one trimmed text and ends with another is trimmed. -/
theorem trim_between {front back : List Char} (between : List Char) (hfront : trim front = front)
    (hback : trim back = back) (hne : front ≠ []) (hne' : back ≠ []) :
    trim (front ++ (between ++ back)) = front ++ (between ++ back) := by
  obtain ⟨hfirst, -⟩ := trim_eq_self_iff.1 hfront
  obtain ⟨-, hlast⟩ := trim_eq_self_iff.1 hback
  refine trim_eq_self_iff.2 ⟨fun c hc => hfirst c ?_, fun c hc => hlast c ?_⟩
  · rwa [List.head?_append_of_ne_nil _ hne] at hc
  · rwa [List.getLast?_append_of_ne_nil _ (by simp [hne']),
      List.getLast?_append_of_ne_nil _ hne'] at hc

/-- **Trimmed texts that are joined are trimmed together, and something is left of them.** -/
theorem trim_intercalate {sep : List Char} {parts : List (List Char)}
    (h : ∀ part ∈ parts, trim part = part ∧ part ≠ []) :
    trim (sep.intercalate parts) = sep.intercalate parts ∧
      (parts ≠ [] → sep.intercalate parts ≠ []) := by
  induction parts with
  | nil => exact ⟨rfl, fun hne => absurd rfl hne⟩
  | cons part parts ih =>
    obtain ⟨hpart, hne⟩ := h part List.mem_cons_self
    by_cases hparts : parts = []
    · subst hparts
      rw [List.intercalate_singleton]
      exact ⟨hpart, fun _ => hne⟩
    · obtain ⟨hrest, hsome⟩ := ih fun p hp => h p (List.mem_cons_of_mem _ hp)
      rw [List.intercalate_cons_of_ne_nil hparts, List.append_assoc]
      exact ⟨trim_between sep hpart hrest hne (hsome hparts), fun _ => by simp [hne]⟩

/-! ## 3. Rows -/

/-- The lines of a text without the blanks around each. -/
def rows (cs : List Char) : List (List Char) := (lines cs).map trim

theorem trim_of_mem_rows {cs row : List Char} (h : row ∈ rows cs) : trim row = row := by
  obtain ⟨line, -, rfl⟩ := List.mem_map.1 h
  exact trim_trim line

/-- A text without line feeds is its own only row, if anything is left of it. -/
theorem rows_of_not_mem {cs : List Char} (h : '\n' ∉ cs) :
    rows cs = if cs = [] then [] else [trim cs] := by
  unfold rows lines
  rw [List.splitOn_eq_singleton h]
  cases cs with
  | nil => rfl
  | cons c cs => rfl

/-- A line feed ends the lines before it, and the lines after it are those of the rest. -/
theorem lines_append (a b : List Char) :
    lines (a ++ '\n' :: b) = (a.splitOn '\n').map dropReturn ++ lines b := by
  have hne : b.splitOn '\n' ≠ [] := List.splitOn_ne_nil '\n' b
  unfold lines
  rw [List.splitOn_append_cons_self]
  dsimp only
  rw [List.dropLast_append_of_ne_nil hne, List.map_append, List.getLast?_append_of_ne_nil _ hne]
  split
  · rfl
  · rfl
  · rw [List.append_assoc]

/-- **A line feed parts the rows before it from those after it.** -/
theorem rows_append (a b : List Char) :
    rows (a ++ '\n' :: b) = (a.splitOn '\n').map trim ++ rows b := by
  unfold rows
  rw [lines_append, List.map_append, List.map_map]
  congr 1
  exact List.map_congr_left fun line _ => trim_dropReturn line

/-- The parts between line feeds are the rows, with an empty one perhaps behind them. -/
theorem exists_map_trim_splitOn (cs : List Char) :
    ∃ gap, (cs.splitOn '\n').map trim = rows cs ++ gap ∧ ∀ row ∈ gap, row = [] := by
  have hended : (cs.splitOn '\n').dropLast.map (trim ∘ dropReturn) =
      (cs.splitOn '\n').dropLast.map trim :=
    List.map_congr_left fun line _ => trim_dropReturn line
  obtain ⟨last, hlast⟩ := Option.ne_none_iff_exists'.1
    (mt List.getLast?_eq_none_iff.1 (List.splitOn_ne_nil '\n' cs))
  have hparts : (cs.splitOn '\n').map trim = (cs.splitOn '\n').dropLast.map trim ++ [trim last] := by
    obtain ⟨init, hinit⟩ := List.getLast?_eq_some_iff.1 hlast
    rw [hinit, List.dropLast_concat, List.map_append]
    rfl
  unfold rows lines
  dsimp only
  rw [hlast, hparts]
  cases last with
  | nil =>
    refine ⟨[[]], ?_, fun row => List.mem_singleton.1⟩
    dsimp only
    rw [List.map_map, hended]
    rfl
  | cons c cs =>
    refine ⟨[], ?_, fun row hrow => absurd hrow List.not_mem_nil⟩
    dsimp only
    rw [List.map_append, List.map_map, hended, List.append_nil]
    rfl

/-- The parts of a text of blanks are blank. -/
theorem trim_of_mem_splitOn_blank {cs part : List Char} (h : isBlankText cs = true)
    (hpart : part ∈ cs.splitOn '\n') : trim part = [] := by
  refine trim_eq_nil_iff.2 (List.all_eq_true.2 fun c hc => List.all_eq_true.1 h c ?_)
  have hne : c ≠ '\n' := fun heq => not_mem_of_mem_splitOn hpart (heq ▸ hc)
  have hjoined : ['\n'].intercalate (cs.splitOn '\n') = cs := List.intercalate_splitOn '\n'
  rw [← hjoined, mem_intercalate_iff hne]
  exact ⟨part, hpart, hc⟩

end ThresholdCheck.Text
