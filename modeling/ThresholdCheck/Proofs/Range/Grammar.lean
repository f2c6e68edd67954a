import ThresholdCheck.Proofs.Binary64.Literal
import ThresholdCheck.Proofs.Fallible
import ThresholdCheck.Proofs.Text.Trimming
import ThresholdCheck.Range.Parsing

/-!
# The grammar of ranges

A range is written by the rules

* expression: a body, or `@` and a body;
* body: a numeral, or a start, `:` and a stop;
* start: nothing, `~`, or a numeral;
* stop: nothing, or a numeral.

A numeral is a literal that reads as a number other than NaN (`Numeral`). A syntax tree of these
rules (`Expression`) has its text (`Expression.chars`) and, under a mode, the range that it denotes
(`Expression.denote`). Main statements:

* `Expression.chars_injective`: the grammar is unambiguous;
* `readTrimmed_eq_ok_iff`: the reader takes exactly the texts of trees, and reads what they denote;
* `parse_grammar`: so a text is a range exactly if its trimmed form has a tree.
-/

namespace ThresholdCheck.Range

open Binary64 (ofLiteral isLiteralChar)
open Text (trim cut)

/-! ## 1. Syntax trees -/

/-- A literal that may be a bound, with the number that it reads as. -/
structure Numeral where
  chars : List Char
  value : Binary64
  reads : ofLiteral chars = .ok value
  ne_nan : value ≠ .nan

/-- What stands before the colon. -/
inductive Start where
  | omitted
  | lowest
  | bound (n : Numeral)

/-- What stands after the colon. -/
inductive Stop where
  | omitted
  | bound (n : Numeral)

/-- A range without its sign. -/
inductive Body where
  | single (n : Numeral)
  | span (start : Start) (stop : Stop)

/-- A range as it is written. -/
structure Expression where
  inverted : Bool
  body : Body

/-! ## 2. Texts -/

/-- The text of a start. -/
def Start.chars : Start → List Char
  | omitted => []
  | lowest => ['~']
  | bound n => n.chars

/-- The text of a stop. -/
def Stop.chars : Stop → List Char
  | omitted => []
  | bound n => n.chars

/-- The text of a body. -/
def Body.chars : Body → List Char
  | single n => n.chars
  | span start stop => start.chars ++ ':' :: stop.chars

/-- The text of an expression. -/
def Expression.chars (e : Expression) : List Char :=
  if e.inverted then '@' :: e.body.chars else e.body.chars

/-! ## 3. Meanings -/

/-- The bottom that a start gives. -/
def Start.value (mode : Mode) : Start → Binary64
  | omitted => mode.defaultBottom
  | lowest => .negInfinity
  | bound n => n.value

/-- The top that a stop gives. -/
def Stop.value : Stop → Binary64
  | omitted => .infinity
  | bound n => n.value

/-- The bottom and the top that a body gives. -/
def Body.bounds (mode : Mode) : Body → Binary64 × Binary64
  | single n => (mode.defaultBottom, n.value)
  | span start stop => (start.value mode, stop.value)

/-- The range that an expression denotes: its text is kept. -/
def Expression.denote (mode : Mode) (e : Expression) : Range :=
  ⟨(e.body.bounds mode).1, (e.body.bounds mode).2, e.inverted, String.ofList e.chars⟩

@[simp] theorem Expression.raw_denote (mode : Mode) (e : Expression) :
    (e.denote mode).raw = String.ofList e.chars := rfl

theorem defaultBottom_ne_nan (mode : Mode) : mode.defaultBottom ≠ .nan := by
  cases mode <;> decide

/-- No bound of a body is NaN. -/
theorem Body.bounds_ne_nan (mode : Mode) (b : Body) :
    (b.bounds mode).1 ≠ .nan ∧ (b.bounds mode).2 ≠ .nan := by
  have hinf : Binary64.infinity ≠ .nan := by decide
  have hneg : Binary64.negInfinity ≠ .nan := by decide
  cases b with
  | single n => exact ⟨defaultBottom_ne_nan mode, n.ne_nan⟩
  | span start stop =>
    constructor
    · cases start with
      | omitted => exact defaultBottom_ne_nan mode
      | lowest => exact hneg
      | bound n => exact n.ne_nan
    · cases stop with
      | omitted => exact hinf
      | bound n => exact n.ne_nan

/-! ## 4. The characters of a range -/

/-- The characters that a body may have. -/
def isBodyChar (c : Char) : Bool := isLiteralChar c || c == ':' || c == '~'

theorem isBodyChar_of_isLiteralChar {c : Char} (h : isLiteralChar c = true) :
    isBodyChar c = true := by
  simp [isBodyChar, h]

theorem Numeral.chars_isBodyChar (n : Numeral) : ∀ c ∈ n.chars, isBodyChar c = true := fun c hc =>
  isBodyChar_of_isLiteralChar (Binary64.ofLiteral_chars n.reads c hc)

theorem Numeral.not_mem (n : Numeral) {c : Char} (h : isLiteralChar c = false) : c ∉ n.chars :=
  Binary64.not_mem_of_ofLiteral n.reads h

theorem Numeral.chars_ne_nil (n : Numeral) : n.chars ≠ [] := Binary64.ofLiteral_ne_nil n.reads

theorem Start.colon_not_mem (s : Start) : ':' ∉ s.chars := by
  cases s with
  | omitted => exact List.not_mem_nil
  | lowest => decide
  | bound n => exact n.not_mem (by decide)

theorem Body.chars_isBodyChar (b : Body) : ∀ c ∈ b.chars, isBodyChar c = true := by
  cases b with
  | single n => exact n.chars_isBodyChar
  | span start stop =>
    intro c hc
    rcases List.mem_append.1 hc with hc | hc
    · cases start with
      | omitted => cases hc
      | lowest =>
        rw [List.mem_singleton.1 hc]
        decide
      | bound n => exact n.chars_isBodyChar c hc
    · rcases List.mem_cons.1 hc with rfl | hc
      · decide
      · cases stop with
        | omitted => cases hc
        | bound n => exact n.chars_isBodyChar c hc

theorem Body.chars_ne_nil (b : Body) : b.chars ≠ [] := by
  cases b with
  | single n => exact n.chars_ne_nil
  | span start stop => exact List.append_ne_nil_of_right_ne_nil _ (List.cons_ne_nil _ _)

theorem Expression.chars_ne_nil (e : Expression) : e.chars ≠ [] := by
  unfold Expression.chars
  split
  · exact List.cons_ne_nil _ _
  · exact e.body.chars_ne_nil

/-- An expression has the characters of a body, and the sign. -/
theorem Expression.chars_isBodyChar (e : Expression) :
    ∀ c ∈ e.chars, c = '@' ∨ isBodyChar c = true := by
  intro c hc
  unfold Expression.chars at hc
  split at hc
  · rcases List.mem_cons.1 hc with rfl | hc
    · exact Or.inl rfl
    · exact Or.inr (e.body.chars_isBodyChar c hc)
  · exact Or.inr (e.body.chars_isBodyChar c hc)

/-- No range has a comma or a blank in its text. -/
theorem Expression.comma_blank_not_mem (e : Expression) :
    ∀ c ∈ e.chars, c ≠ ',' ∧ Text.isBlank c = false := by
  intro c hc
  rcases e.chars_isBodyChar c hc with rfl | hb
  · decide
  · simp only [isBodyChar, Bool.or_eq_true, beq_iff_eq] at hb
    rcases hb with (hb | rfl) | rfl
    · refine ⟨?_, Binary64.not_isBlank_of_isLiteralChar hb⟩
      rintro rfl
      cases hb
    · decide
    · decide

/-- The characters that the text of a range may have. -/
def isTextChar (c : Char) : Bool := isBodyChar c || c == '@'

/-- A text such as ranges have: not empty, and of no other characters. -/
def IsText (raw : String) : Prop := raw ≠ "" ∧ ∀ c ∈ raw.toList, isTextChar c = true

theorem Expression.isText_of_chars {e : Expression} {raw : String} (h : e.chars = raw.toList) :
    IsText raw := by
  constructor
  · intro hraw
    rw [hraw] at h
    exact e.chars_ne_nil h
  · intro c hc
    rw [← h] at hc
    rcases e.chars_isBodyChar c hc with rfl | hb
    · decide
    · rw [isTextChar, hb, Bool.true_or]

theorem Expression.trim_chars (e : Expression) : trim e.chars = e.chars :=
  Text.trim_eq_self fun c hc => (e.comma_blank_not_mem c hc).2

/-! ## 5. The grammar is unambiguous -/

theorem Numeral.chars_injective {m n : Numeral} (h : m.chars = n.chars) : m = n := by
  obtain ⟨cs, x, hx, _⟩ := m
  obtain ⟨ds, y, hy, _⟩ := n
  cases h
  have hxy : x = y := Except.ok.inj (hx.symm.trans hy)
  cases hxy
  rfl

theorem Numeral.chars_ne_tilde (n : Numeral) : n.chars ≠ ['~'] := by
  intro h
  exact n.not_mem (c := '~') (by decide) (by rw [h]; exact List.mem_singleton_self _)

theorem Start.chars_injective {s t : Start} (h : s.chars = t.chars) : s = t := by
  cases s with
  | omitted =>
    cases t with
    | omitted => rfl
    | lowest => cases h
    | bound n => exact absurd h.symm n.chars_ne_nil
  | lowest =>
    cases t with
    | omitted => cases h
    | lowest => rfl
    | bound n => exact absurd h.symm n.chars_ne_tilde
  | bound m =>
    cases t with
    | omitted => exact absurd h m.chars_ne_nil
    | lowest => exact absurd h m.chars_ne_tilde
    | bound n => rw [Numeral.chars_injective h]

theorem Stop.chars_injective {s t : Stop} (h : s.chars = t.chars) : s = t := by
  cases s with
  | omitted =>
    cases t with
    | omitted => rfl
    | bound n => exact absurd h.symm n.chars_ne_nil
  | bound m =>
    cases t with
    | omitted => exact absurd h m.chars_ne_nil
    | bound n => rw [Numeral.chars_injective h]

theorem cut_span (start : Start) (stop : Stop) :
    cut ':' (Body.span start stop).chars = some (start.chars, stop.chars) :=
  Text.cut_eq_some_iff.2 ⟨rfl, start.colon_not_mem⟩

theorem cut_single (n : Numeral) : cut ':' (Body.single n).chars = none :=
  Text.cut_eq_none_iff.2 (n.not_mem (by decide))

theorem Body.chars_injective {a b : Body} (h : a.chars = b.chars) : a = b := by
  have hcut : cut ':' a.chars = cut ':' b.chars := by rw [h]
  cases a with
  | single m =>
    cases b with
    | single n => rw [Numeral.chars_injective h]
    | span start stop =>
      rw [cut_single, cut_span] at hcut
      cases hcut
  | span start stop =>
    cases b with
    | single n =>
      rw [cut_single, cut_span] at hcut
      cases hcut
    | span start' stop' =>
      rw [cut_span, cut_span] at hcut
      simp only [Option.some.injEq, Prod.mk.injEq] at hcut
      rw [Start.chars_injective hcut.1, Stop.chars_injective hcut.2]

theorem takeInversion_chars (e : Expression) : takeInversion e.chars = (e.inverted, e.body.chars) := by
  obtain ⟨inverted, body⟩ := e
  cases inverted with
  | true => rfl
  | false =>
    show takeInversion body.chars = (false, body.chars)
    unfold takeInversion
    split
    · rename_i cs heq
      have hat := body.chars_isBodyChar '@' (by rw [heq]; exact List.mem_cons_self)
      cases hat
    · rfl

/-- **The grammar is unambiguous.** -/
theorem Expression.chars_injective {e f : Expression} (h : e.chars = f.chars) : e = f := by
  have hsign := takeInversion_chars e
  rw [h, takeInversion_chars f] at hsign
  simp only [Prod.mk.injEq] at hsign
  obtain ⟨hinv, hbody⟩ := hsign
  obtain ⟨inverted, body⟩ := e
  obtain ⟨inverted', body'⟩ := f
  cases hinv
  cases Body.chars_injective hbody
  rfl

/-! ## 6. The reader follows the grammar -/

theorem readBound_eq_ok_iff {cs : List Char} {x : Binary64} :
    readBound cs = .ok x ↔ ∃ n : Numeral, n.chars = cs ∧ n.value = x := by
  constructor
  · intro h
    unfold readBound at h
    split at h
    · cases h
    · rename_i hy
      split at h
      · cases h
      · rename_i hnan
        cases h
        exact ⟨⟨cs, x, hy, fun he => hnan (Binary64.isNaN_iff.2 he)⟩, rfl, rfl⟩
  · rintro ⟨n, rfl, rfl⟩
    have hnan : n.value.isNaN = false := by
      cases hv : n.value.isNaN with
      | false => rfl
      | true => exact absurd (Binary64.isNaN_iff.1 hv) n.ne_nan
    unfold readBound
    rw [n.reads]
    dsimp only
    rw [hnan]
    rfl

theorem readStart_eq_ok_iff {mode : Mode} {cs : List Char} {x : Binary64} :
    readStart mode cs = .ok x ↔ ∃ s : Start, s.chars = cs ∧ s.value mode = x := by
  constructor
  · intro h
    unfold readStart at h
    split at h
    · rename_i hnil
      cases h
      exact ⟨.omitted, hnil.symm, rfl⟩
    · split at h
      · rename_i htilde
        cases h
        exact ⟨.lowest, htilde.symm, rfl⟩
      · obtain ⟨n, hn, hx⟩ := readBound_eq_ok_iff.1 h
        exact ⟨.bound n, hn, hx⟩
  · rintro ⟨s, rfl, rfl⟩
    unfold readStart
    cases s with
    | omitted => rfl
    | lowest => rfl
    | bound n =>
      show (if n.chars = [] then _ else if n.chars = ['~'] then _ else readBound n.chars) = _
      rw [if_neg n.chars_ne_nil, if_neg n.chars_ne_tilde]
      exact readBound_eq_ok_iff.2 ⟨n, rfl, rfl⟩

theorem readEnd_eq_ok_iff {cs : List Char} {x : Binary64} :
    readEnd cs = .ok x ↔ ∃ s : Stop, s.chars = cs ∧ s.value = x := by
  constructor
  · intro h
    unfold readEnd at h
    split at h
    · rename_i hnil
      cases h
      exact ⟨.omitted, hnil.symm, rfl⟩
    · obtain ⟨n, hn, hx⟩ := readBound_eq_ok_iff.1 h
      exact ⟨.bound n, hn, hx⟩
  · rintro ⟨s, rfl, rfl⟩
    unfold readEnd
    cases s with
    | omitted => rfl
    | bound n =>
      show (if n.chars = [] then _ else readBound n.chars) = _
      rw [if_neg n.chars_ne_nil]
      exact readBound_eq_ok_iff.2 ⟨n, rfl, rfl⟩

theorem readBounds_eq_ok_iff {mode : Mode} {cs : List Char} {bounds : Binary64 × Binary64} :
    readBounds mode cs = .ok bounds ↔ ∃ b : Body, b.chars = cs ∧ b.bounds mode = bounds := by
  constructor
  · intro h
    unfold readBounds at h
    split at h
    · cases h
    · split at h
      · rename_i start stop hcut
        obtain ⟨bottom, hs, h⟩ := bind_eq_ok h
        obtain ⟨top, he, h⟩ := bind_eq_ok h
        cases h
        obtain ⟨s, rfl, rfl⟩ := readStart_eq_ok_iff.1 hs
        obtain ⟨e, rfl, rfl⟩ := readEnd_eq_ok_iff.1 he
        exact ⟨.span s e, (Text.cut_eq_some_iff.1 hcut).1.symm, rfl⟩
      · obtain ⟨top, hb, h⟩ := bind_eq_ok h
        cases h
        obtain ⟨n, hn, rfl⟩ := readBound_eq_ok_iff.1 hb
        exact ⟨.single n, hn, rfl⟩
  · rintro ⟨b, rfl, rfl⟩
    unfold readBounds
    rw [if_neg b.chars_ne_nil]
    cases b with
    | single n =>
      rw [cut_single]
      dsimp only
      rw [show (Body.single n).chars = n.chars from rfl, readBound_eq_ok_iff.2 ⟨n, rfl, rfl⟩]
      rfl
    | span start stop =>
      rw [cut_span]
      dsimp only
      rw [readStart_eq_ok_iff.2 ⟨start, rfl, rfl⟩, readEnd_eq_ok_iff.2 ⟨stop, rfl, rfl⟩]
      rfl

/-- **The reader takes exactly the texts of trees, and reads what they denote.** -/
theorem readTrimmed_eq_ok_iff {mode : Mode} {cs : List Char} {r : Range} :
    readTrimmed mode cs = .ok r ↔ ∃ e : Expression, e.chars = cs ∧ e.denote mode = r := by
  constructor
  · intro h
    unfold readTrimmed at h
    cases hsign : takeInversion cs with
    | mk inverted body =>
      rw [hsign] at h
      dsimp only at h
      obtain ⟨bounds, hb, rfl⟩ := map_eq_ok h
      obtain ⟨b, rfl, rfl⟩ := readBounds_eq_ok_iff.1 hb
      have htext : (Expression.mk inverted b).chars = cs := by
        unfold takeInversion at hsign
        split at hsign
        · cases hsign
          rfl
        · cases hsign
          rfl
      exact ⟨⟨inverted, b⟩, htext, by rw [← htext]; rfl⟩
  · rintro ⟨e, rfl, rfl⟩
    unfold readTrimmed
    rw [takeInversion_chars]
    dsimp only
    rw [readBounds_eq_ok_iff.2 ⟨e.body, rfl, rfl⟩]
    rfl

/-! ## 7. Whole texts -/

/-- A text reads as the range that the tree of its trimmed form denotes. -/
theorem parse_eq_ok_iff {mode : Mode} {text : String} {r : Range} :
    parse mode text = .ok r ↔ ∃ e : Expression, e.chars = trim text.toList ∧ e.denote mode = r := by
  constructor
  · intro h
    unfold parse at h
    exact readTrimmed_eq_ok_iff.1 (mapError_eq_ok h)
  · intro he
    unfold parse
    rw [readTrimmed_eq_ok_iff.2 he]
    rfl

/-- What is no range is refused with the text as it was given. -/
theorem parse_eq_error {mode : Mode} {text : String} {fault : Fault}
    (h : parse mode text = .error fault) : ∃ cause, fault = .range text cause := by
  unfold parse at h
  cases hread : readTrimmed mode (trim text.toList) with
  | error cause =>
    rw [hread] at h
    cases h
    exact ⟨cause, rfl⟩
  | ok r =>
    rw [hread] at h
    cases h

/-- The text of a tree reads as what the tree denotes. -/
theorem parse_chars (mode : Mode) (e : Expression) :
    parse mode (String.ofList e.chars) = .ok (e.denote mode) :=
  parse_eq_ok_iff.2 ⟨e, by rw [String.toList_ofList, e.trim_chars], rfl⟩

/-- **A text is a range exactly if its trimmed form is written by the rules.** There is one way to
    do so, the range is the one that it denotes, and what cannot be written so is refused with the
    text as it was given. -/
theorem parse_grammar (mode : Mode) (text : String) :
    ((∃ r, parse mode text = .ok r) ↔ ∃ e : Expression, e.chars = trim text.toList) ∧
    (∀ r, parse mode text = .ok r →
      ∃ e : Expression, e.chars = trim text.toList ∧ e.denote mode = r ∧
        r.raw = Text.trimmed text ∧ ∀ f : Expression, f.chars = trim text.toList → f = e) ∧
    (∀ fault, parse mode text = .error fault → ∃ cause, fault = .range text cause) := by
  refine ⟨⟨?_, ?_⟩, ?_, fun fault => parse_eq_error⟩
  · rintro ⟨r, hr⟩
    obtain ⟨e, he, -⟩ := parse_eq_ok_iff.1 hr
    exact ⟨e, he⟩
  · rintro ⟨e, he⟩
    exact ⟨e.denote mode, parse_eq_ok_iff.2 ⟨e, he, rfl⟩⟩
  · intro r hr
    obtain ⟨e, he, hden⟩ := parse_eq_ok_iff.1 hr
    refine ⟨e, he, hden, ?_, fun f hf => Expression.chars_injective (hf.trans he.symm)⟩
    rw [← hden, Expression.raw_denote, he]
    rfl

theorem parse_grammar_inverted :
    (∃ r, parse .zeroFloor " @~:5 " = .ok r ∧ r.raw = Text.trimmed " @~:5 ") ∧
    ∃ cause, parse .zeroFloor "5:~" = .error (.range "5:~" cause) := by
  have hread : (parse .zeroFloor " @~:5 ").toOption.isSome = true := by decide +kernel
  have hrefused : (parse .zeroFloor "5:~").toOption.isSome = false := by decide +kernel
  constructor
  · cases hr : parse .zeroFloor " @~:5 " with
    | error fault =>
      rw [hr] at hread
      cases hread
    | ok r =>
      obtain ⟨e, -, -, hraw, -⟩ := (parse_grammar .zeroFloor " @~:5 ").2.1 r hr
      exact ⟨r, rfl, hraw⟩
  · cases hr : parse .zeroFloor "5:~" with
    | error fault =>
      obtain ⟨cause, rfl⟩ := (parse_grammar .zeroFloor "5:~").2.2 fault hr
      exact ⟨cause, rfl⟩
    | ok r =>
      rw [hr] at hrefused
      cases hrefused

end ThresholdCheck.Range
