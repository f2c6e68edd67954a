/-!
# Text: blanks, trimming, cutting and lines

Every text of a check is a list of characters while it is taken apart. This file fixes the few
readings that all other files share:

* a *blank* is a character with the Unicode property `White_Space` (`isBlank`);
* `trim` removes the blanks at both ends and nothing else;
* `cut` splits at the first occurrence of a separator, `List.splitOn` at all of them;
* `lines` are the texts between line feeds, without the carriage return that ends one.
-/

namespace ThresholdCheck.Text

/-! ## 1. Blanks -/

/-- The characters with the Unicode property `White_Space`. -/
def isBlank (c : Char) : Bool :=
  let n := c.toNat
  (9 ≤ n && n ≤ 13) || n == 0x20 || n == 0x85 || n == 0xA0 || n == 0x1680 ||
    (0x2000 ≤ n && n ≤ 0x200A) || n == 0x2028 || n == 0x2029 || n == 0x202F || n == 0x205F ||
    n == 0x3000

/-- A text of blanks only. -/
def isBlankText (cs : List Char) : Bool := cs.all isBlank

/-! ## 2. Trimming -/

/-- The text from its first character that is no blank on. -/
def trimStart (cs : List Char) : List Char := cs.dropWhile isBlank

/-- The text up to its last character that is no blank. -/
def trimEnd (cs : List Char) : List Char := (cs.reverse.dropWhile isBlank).reverse

/-- The text without the blanks at its two ends. -/
def trim (cs : List Char) : List Char := trimEnd (trimStart cs)

/-- `trim` on a string. -/
def trimmed (s : String) : String := String.ofList (trim s.toList)

@[simp] theorem toList_trimmed (s : String) : (trimmed s).toList = trim s.toList := by
  simp [trimmed]

/-! ## 3. Cutting at a separator -/

/-- The text before the first `sep` and the text after it. -/
def cut (sep : Char) : List Char → Option (List Char × List Char)
  | [] => none
  | c :: cs => if c = sep then some ([], cs) else (cut sep cs).map fun p => (c :: p.1, p.2)

/-- A cut takes place at a separator, and none stands before it. -/
theorem cut_eq_some_iff {sep : Char} {cs a b : List Char} :
    cut sep cs = some (a, b) ↔ cs = a ++ sep :: b ∧ sep ∉ a := by
  induction cs generalizing a with
  | nil => simp [cut]
  | cons c cs ih =>
    by_cases h : c = sep
    · subst h
      simp only [cut, if_true, Option.some.injEq, Prod.mk.injEq]
      constructor
      · rintro ⟨rfl, rfl⟩; simp
      · rintro ⟨h, ha⟩
        cases a with
        | nil => simp_all
        | cons x a => simp at h ha; exact absurd h.1 ha.1
    · simp only [cut, h, if_false, Option.map_eq_some_iff, Prod.mk.injEq]
      constructor
      · rintro ⟨⟨a', b'⟩, hp, rfl, rfl⟩
        obtain ⟨rfl, hn⟩ := ih.1 hp
        exact ⟨by simp, by simp [hn, Ne.symm h]⟩
      · rintro ⟨he, ha⟩
        cases a with
        | nil => simp at he; exact absurd he.1 h
        | cons x a =>
          simp only [List.cons_append, List.cons.injEq] at he
          obtain ⟨rfl, rfl⟩ := he
          exact ⟨(a, b), ih.2 ⟨rfl, fun m => ha (List.mem_cons_of_mem _ m)⟩, rfl, rfl⟩

/-- Nothing is cut exactly where the separator is absent. -/
theorem cut_eq_none_iff {sep : Char} {cs : List Char} : cut sep cs = none ↔ sep ∉ cs := by
  induction cs with
  | nil => simp [cut]
  | cons c cs ih =>
    by_cases h : c = sep
    · simp [cut, h]
    · simp [cut, h, ih, Ne.symm h]

/-! ## 4. Sizes -/

/-- The size of a text in bytes. -/
def byteSize (cs : List Char) : Nat := cs.foldl (fun n c => n + c.utf8Size) 0

/-! ## 5. Lines -/

/-- A line without the carriage return at its end. -/
def dropReturn (line : List Char) : List Char :=
  if line.getLast? = some '\r' then line.dropLast else line

/-- The lines of a text; a text that ends in a line feed has no empty line after it. -/
def lines (cs : List Char) : List (List Char) :=
  let parts := cs.splitOn '\n'
  let ended := parts.dropLast.map dropReturn
  match parts.getLast? with
  | some [] | none => ended
  | some last => ended ++ [last]

end ThresholdCheck.Text
