import ThresholdCheck.Proofs.Binary64.RoundTrip
import ThresholdCheck.Proofs.Range.Grammar
import ThresholdCheck.Proofs.Text.Parts
import ThresholdCheck.Record

/-!
# Tokens: what stands in them, and what is read of them

After the name a token has five fields with a `;` between two (`Record.fields`).

* `Record.Legible`: the texts of violated ranges are such as ranges have;
* **`Record.mem_token_iff`**: in the token of such a record, a character that parts tokens or lines
  comes from the name;
* **`Token.warning_token`**, **`Token.critical_token`**: the texts of violated ranges are read off
  the token from its end, whatever stands in the name.
-/

namespace ThresholdCheck

/-! ## 1. The fields of a token -/

namespace Record

/-- The texts of the violated ranges are such as ranges have. -/
def Legible (r : Record) : Prop :=
  (∀ raw, r.warning = some raw → Range.IsText raw) ∧
    ∀ raw, r.critical = some raw → Range.IsText raw

/-- The characters that a field may have. -/
def isFieldChar (c : Char) : Bool := Range.isTextChar c || c == '%'

/-- The value of the record with its unit. -/
def reading (r : Record) : String := r.value.text ++ (r.scale.map Scale.token).getD ""

/-- The fields that follow the name. -/
def fields (r : Record) : List String :=
  [r.reading, r.warning.getD "", r.critical.getD "", field r.min, field r.max]

theorem toList_token (r : Record) :
    r.token.toList = r.name.toList ++ '=' :: [';'].intercalate (r.fields.map String.toList) := by
  unfold token fields reading
  simp [List.intercalate_cons_cons]

/-! ## 2. Its characters -/

theorem isFieldChar_of_isTextChar {c : Char} (h : Range.isTextChar c = true) :
    isFieldChar c = true := by
  rw [isFieldChar, h, Bool.true_or]

theorem isFieldChar_of_isLiteralChar {c : Char} (h : Binary64.isLiteralChar c = true) :
    isFieldChar c = true :=
  isFieldChar_of_isTextChar
    (by rw [Range.isTextChar, Range.isBodyChar_of_isLiteralChar h, Bool.true_or])

theorem text_chars (x : Binary64) : ∀ c ∈ x.text.toList, isFieldChar c = true := by
  intro c hc
  rw [Binary64.toList_text] at hc
  exact isFieldChar_of_isLiteralChar (Binary64.toChars_chars x c hc)

theorem field_chars (x : Option Binary64) : ∀ c ∈ (field x).toList, isFieldChar c = true := by
  cases x with
  | none =>
    intro c hc
    cases hc
  | some x => exact text_chars x

theorem scale_chars (s : Scale) : ∀ c ∈ s.token.toList, isFieldChar c = true := by
  have hall : s.token.toList.all isFieldChar = true := by cases s <;> decide
  exact List.all_eq_true.1 hall

theorem reading_chars (r : Record) : ∀ c ∈ r.reading.toList, isFieldChar c = true := by
  intro c hc
  unfold reading at hc
  rw [String.toList_append, List.mem_append] at hc
  rcases hc with hc | hc
  · exact text_chars r.value c hc
  · cases hs : r.scale with
    | none =>
      rw [hs] at hc
      cases hc
    | some s =>
      rw [hs] at hc
      exact scale_chars s c hc

/-- A text that may be absent has the characters of fields if it has those of ranges. -/
theorem matched_chars {matched : Option String}
    (h : ∀ raw, matched = some raw → Range.IsText raw) :
    ∀ c ∈ (matched.getD "").toList, isFieldChar c = true := by
  cases matched with
  | none =>
    intro c hc
    cases hc
  | some raw => exact fun c hc => isFieldChar_of_isTextChar ((h raw rfl).2 c hc)

/-- **The fields of a legible record stay in their alphabet.** -/
theorem fields_chars {r : Record} (h : r.Legible) :
    ∀ f ∈ r.fields, ∀ c ∈ f.toList, isFieldChar c = true := by
  unfold fields
  simp only [List.forall_mem_cons]
  exact ⟨reading_chars r, matched_chars h.1, matched_chars h.2, field_chars r.min,
    field_chars r.max, fun f hf => absurd hf List.not_mem_nil⟩

/-- **A character that no field has, and that parts no fields, comes into a token with the name
    only.** -/
theorem mem_token_iff {r : Record} (h : r.Legible) {c : Char} (hfield : isFieldChar c = false)
    (heq : c ≠ '=') (hsep : c ≠ ';') : c ∈ r.token.toList ↔ c ∈ r.name.toList := by
  have hfields : c ∉ [';'].intercalate (r.fields.map String.toList) := by
    rw [Text.mem_intercalate_iff hsep]
    intro hmem
    obtain ⟨part, hpart, hc⟩ := hmem
    obtain ⟨f, hf, rfl⟩ := List.mem_map.1 hpart
    exact absurd (fields_chars h f hf c hc) (by rw [hfield]; decide)
  rw [toList_token, List.mem_append, List.mem_cons]
  constructor
  · intro hmem
    rcases hmem with hc | rfl | hc
    · exact hc
    · exact absurd rfl heq
    · exact absurd hc hfields
  · exact Or.inl

end Record

/-! ## 3. Reading a token from its end -/

namespace Token

/-- The field of a token at a place, counted from the last one on, which has place 0. -/
def fieldFromEnd (place : Nat) (token : String) : List Char :=
  ((token.toList.splitOn ';').reverse[place]?).getD []

/-- The text of the range that was violated for warning. -/
def warning (token : String) : List Char := fieldFromEnd 3 token

/-- The text of the range that was violated for critical. -/
def critical (token : String) : List Char := fieldFromEnd 2 token

/-- What the parts of a token end in, whatever its name is. -/
theorem splitOn_token {r : Record} (h : r.Legible) :
    ∃ parts, r.token.toList.splitOn ';' = parts ++
      [(r.warning.getD "").toList, (r.critical.getD "").toList, (Record.field r.min).toList,
        (Record.field r.max).toList] := by
  have hclean : ∀ f ∈ r.fields, ';' ∉ f.toList := fun f hf hc =>
    absurd (Record.fields_chars h f hf ';' hc) (by decide)
  simp only [Record.fields, List.forall_mem_cons] at hclean
  obtain ⟨-, hwarning, hcritical, hmin, hmax, -⟩ := hclean
  refine ⟨(r.name.toList ++ '=' :: r.reading.toList).splitOn ';', ?_⟩
  have htoken : r.token.toList = (r.name.toList ++ '=' :: r.reading.toList) ++
      ';' :: ((r.warning.getD "").toList ++ ';' :: ((r.critical.getD "").toList ++
        ';' :: ((Record.field r.min).toList ++ ';' :: (Record.field r.max).toList))) := by
    rw [Record.toList_token]
    simp [Record.fields, List.intercalate_cons_cons]
  rw [htoken, List.splitOn_append_cons_self, List.splitOn_append_cons_self_of_not_mem hwarning,
    List.splitOn_append_cons_self_of_not_mem hcritical,
    List.splitOn_append_cons_self_of_not_mem hmin, List.splitOn_eq_singleton hmax]

/-- **The text of the range that was violated for warning is read off the token.** -/
theorem warning_token {r : Record} (h : r.Legible) :
    warning r.token = (r.warning.getD "").toList := by
  obtain ⟨parts, hparts⟩ := splitOn_token h
  unfold warning fieldFromEnd
  rw [hparts, List.reverse_append]
  rfl

/-- **The text of the range that was violated for critical is read off the token.** -/
theorem critical_token {r : Record} (h : r.Legible) :
    critical r.token = (r.critical.getD "").toList := by
  obtain ⟨parts, hparts⟩ := splitOn_token h
  unfold critical fieldFromEnd
  rw [hparts, List.reverse_append]
  rfl

end Token

end ThresholdCheck
