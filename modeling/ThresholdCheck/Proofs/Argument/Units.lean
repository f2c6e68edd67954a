import ThresholdCheck.Proofs.Argument.Declared
import ThresholdCheck.Proofs.Evaluator.Judging
import ThresholdCheck.Proofs.Evaluator.Records
import ThresholdCheck.Proofs.Record

/-!
# Units: given, recorded and given again

A unit is cut off an argument from its end, and an evaluator takes it if it spells a scale. The
record has the scale, and its token begins with an argument again: the name, the value as numbers
are written and the scale as its token.

* `Scale.separate_token`: no token of a scale has a character that numbers may have. The cut from
  the end of what is written in a token rests on this (`Argument.isValue_text`);
* `readScale_given_iff`: which units are taken;
* `judge_unthresholded_iff`: without thresholds, nothing else decides whether a measurement is;
* **`recorded_again`**: what is recorded of an argument is recorded again of the text that its token
  begins with.
-/

namespace ThresholdCheck

/-! ## 1. What is written in tokens -/

namespace Scale

theorem separate_token (s : Scale) : ∀ c ∈ s.token.toList, c ∉ Argument.numeralChars := by
  have hall : (s.token.toList.all fun c => decide (c ∉ Argument.numeralChars)) = true := by
    cases s <;> decide
  exact fun c hc => of_decide_eq_true (List.all_eq_true.1 hall c hc)

theorem trimmed_token (s : Scale) : Text.trimmed s.token = s.token := by
  cases s <;> decide

/-- What is given as a unit: nothing, or a scale in letters of either case. -/
def Given (unit : String) : Option Scale → Prop
  | none => unit = ""
  | some s => folded s.token = folded unit

theorem exists_given_iff {unit : String} :
    (∃ scale, Given unit scale) ↔ unit = "" ∨ ∃ s : Scale, folded s.token = folded unit := by
  rw [Option.exists]
  rfl

/-- The token of a scale gives it. -/
theorem given_token (scale : Option Scale) : Given ((scale.map token).getD "") scale := by
  cases scale with
  | none => rfl
  | some s => exact rfl

end Scale

namespace Argument

variable {x : Binary64}

/-- Finite numbers are written in characters of numbers. -/
theorem mem_numeralChars_of_text (hnan : x ≠ .nan) (hinf : x ≠ .infinity)
    (hninf : x ≠ .negInfinity) : ∀ c ∈ x.text.toList, c ∈ numeralChars := by
  have hspelled : Binary64.spellsInfinity x.toChars ≠ true := fun h =>
    ((Binary64.spellsInfinity_toChars hnan).1 h).elim hinf hninf
  intro c hc
  rw [Binary64.toList_text] at hc
  rcases Binary64.decimal_or_infinity (Binary64.ofLiteral_toChars hnan) hnan with hdecimal | h
  · exact isNumberChar_iff.1 (hdecimal c hc)
  · exact absurd h hspelled

/-- **A finite number and a scale come apart as they were written.** -/
theorem isValue_text (hnan : x ≠ .nan) (hinf : x ≠ .infinity) (hninf : x ≠ .negInfinity)
    (scale : Option Scale) : IsValue x.text ((scale.map Scale.token).getD "") x where
  read := by
    rw [Binary64.toList_text]
    exact Binary64.ofLiteral_toChars hnan
  numeral := mem_numeralChars_of_text hnan hinf hninf
  separate := by
    cases scale with
    | none => exact fun c hc => absurd hc List.not_mem_nil
    | some s => exact s.separate_token
  trimmed := by
    cases scale with
    | none => rfl
    | some s => exact s.trimmed_token

end Argument

/-! ## 2. What an evaluator takes -/

namespace Evaluator

variable {e : Evaluator} {m : Measurement} {r : Record}

theorem readScale_given_iff {unit : String} {scale : Option Scale} :
    readScale (if unit = "" then none else some unit) = .ok scale ↔ Scale.Given unit scale := by
  by_cases hunit : unit = ""
  · subst hunit
    rw [if_pos rfl]
    cases scale with
    | none => exact iff_of_true rfl rfl
    | some s =>
      have hnot : Scale.folded s.token ≠ Scale.folded "" := by
        cases s <;> decide
      exact iff_of_false (fun h => nomatch h) hnot
  · rw [if_neg hunit]
    unfold readScale
    dsimp only
    cases scale with
    | none =>
      refine iff_of_false (fun h => ?_) hunit
      split at h
      · cases h
      · cases h
    | some s =>
      show _ ↔ Scale.folded s.token = Scale.folded unit
      rw [← Scale.ofText?_eq_some_iff]
      cases Scale.ofText? unit with
      | none => exact iff_of_false (fun h => nomatch h) fun h => nomatch h
      | some t => simp

/-- No severity is enabled. -/
def Unthresholded (e : Evaluator) : Prop := e.warning = none ∧ e.critical = none

theorem judge_unthresholded_iff (h : e.Unthresholded) :
    e.judge m = .ok r ↔
      m.slot ≠ 0 ∧ m.value.isNaN = false ∧
      ∃ scale, readScale m.scale = .ok scale ∧ r = recordOf m scale none none := by
  rw [judge_eq_ok_iff, h.1, h.2]
  unfold Threshold.matched
  simp

end Evaluator

/-! ## 3. Given again -/

/-- Without violated ranges and bounds, nothing is written behind the value. -/
theorem Record.token_bare {r : Record} (hwarning : r.warning = none) (hcritical : r.critical = none)
    (hmin : r.min = none) (hmax : r.max = none) :
    r.token = r.name ++ "=" ++ r.reading ++ ";;;;" := by
  unfold token reading field
  rw [hwarning, hcritical, hmin, hmax]
  simp [String.append_assoc]

namespace Argument

open Evaluator (recordOf)

variable {config : Config} {name number unit : String} {x : Binary64}

/-- A value and a unit, under a name that nothing is declared of. -/
def given (name : String) (x : Binary64) (unit : String) : Measurement :=
  ⟨name, x, none, none, if unit = "" then none else some unit, 1⟩

/-- The record of a value that is not tested. -/
def untested (name : String) (x : Binary64) (scale : Option Scale) : Record :=
  recordOf (.plain name x) scale none none

/-- Without thresholds, the unit alone decides. -/
theorem judge_given_iff {e : Evaluator} {r : Record} (h : e.Unthresholded) (hnan : x.isNaN = false) :
    e.judge (given name x unit) = .ok r ↔
      ∃ scale, Scale.Given unit scale ∧ r = untested name x scale := by
  rw [Evaluator.judge_unthresholded_iff h]
  unfold given
  simp only [Evaluator.readScale_given_iff]
  exact ⟨fun hjudged => hjudged.2.2, fun hscale => ⟨Nat.one_ne_zero, hnan, hscale⟩⟩

theorem setValue_given_iff {e : Evaluator} {state : Status} {next : Evaluator}
    (h : e.Unthresholded) (hnan : x.isNaN = false) :
    e.setValue (given name x unit) = .ok (state, next) ↔
      ∃ scale, Scale.Given unit scale ∧ state = .ok ∧
        next = { e with records := store (untested name x scale) e.records } := by
  rw [Evaluator.setValue_eq_ok_iff]
  simp only [judge_given_iff h hnan]
  constructor
  · rintro ⟨r, ⟨scale, hscale, rfl⟩, rfl, rfl⟩
    exact ⟨scale, hscale, rfl, rfl⟩
  · rintro ⟨scale, hscale, rfl, rfl⟩
    exact ⟨_, ⟨scale, hscale, rfl⟩, rfl, rfl⟩

theorem exists_setValue_given_iff {e : Evaluator} (h : e.Unthresholded) (hnan : x.isNaN = false) :
    (∃ state next, e.setValue (given name x unit) = .ok (state, next)) ↔
      unit = "" ∨ ∃ s : Scale, Scale.folded s.token = Scale.folded unit := by
  rw [← Scale.exists_given_iff]
  simp only [setValue_given_iff h hnan]
  constructor
  · rintro ⟨_, _, scale, hscale, -⟩
    exact ⟨scale, hscale⟩
  · rintro ⟨scale, hscale⟩
    exact ⟨_, _, scale, hscale, rfl, rfl⟩

/-- **A finite value is given again by what its token begins with.** -/
theorem measured_reading (hname : IsName name) (hnone : config.metric? name = none)
    (hnan : x ≠ .nan) (hinf : x ≠ .infinity) (hninf : x ≠ .negInfinity) (scale : Option Scale) :
    measured config (name ++ "=" ++ (untested name x scale).reading) =
      .ok (given name x ((scale.map Scale.token).getD "")) := by
  have hread := measured_of_undeclared hnone hname (isValue_text hnan hinf hninf scale)
  rw [String.append_assoc] at hread
  exact hread

/-- **What is recorded of an argument is recorded again of what its token begins with.** A name that
    nothing is declared of, a number and a unit stand for that value with that unit. Without
    thresholds it is recorded exactly if there is no unit or the unit spells a scale, in letters of
    either case. The token of the record begins with the name, the value and the scale, and if the
    value is finite, these are recorded as the same record. -/
theorem recorded_again (hname : IsName name) (hnone : config.metric? name = none)
    (hvalue : IsValue number unit x) :
    measured config (name ++ "=" ++ number ++ unit) = .ok (given name x unit) ∧
    ∀ e : Evaluator, e.Unthresholded →
      ((∃ state next, e.setValue (given name x unit) = .ok (state, next)) ↔
        unit = "" ∨ ∃ s : Scale, Scale.folded s.token = Scale.folded unit) ∧
      ∀ state next, e.setValue (given name x unit) = .ok (state, next) →
        ∃ r, next.record? name = some r ∧ r.value = x ∧ Scale.Given unit r.scale ∧
          r.token = name ++ "=" ++ r.reading ++ ";;;;" ∧
          (x ≠ .infinity → x ≠ .negInfinity →
            ∃ again, measured config (name ++ "=" ++ r.reading) = .ok again ∧
              ∀ e' : Evaluator, e'.Unthresholded →
                ∃ state' next', e'.setValue again = .ok (state', next') ∧
                  next'.record? name = some r) := by
  have hnumber : x.isNaN = false := value_not_nan (parse_of_parts hname hvalue)
  have hnan : x ≠ .nan := by
    rw [← Bool.not_eq_true, Binary64.isNaN_iff] at hnumber
    exact hnumber
  refine ⟨measured_of_undeclared hnone hname hvalue, fun e h =>
    ⟨exists_setValue_given_iff h hnumber, fun state next hset => ?_⟩⟩
  obtain ⟨scale, hscale, -, rfl⟩ := (setValue_given_iff h hnumber).1 hset
  refine ⟨untested name x scale, find?_store (untested name x scale) e.records, rfl, hscale,
    Record.token_bare rfl rfl rfl rfl, fun hinf hninf => ?_⟩
  refine ⟨_, measured_reading hname hnone hnan hinf hninf scale, fun e' h' => ?_⟩
  have hscale' : Scale.Given ((scale.map Scale.token).getD "") scale := Scale.given_token scale
  refine ⟨.ok, _, (setValue_given_iff h' hnumber).2 ⟨scale, hscale', rfl, rfl⟩, ?_⟩
  exact find?_store (untested name x scale) e'.records

/-- A number is written without its exponent, and a unit in capitals. -/
theorem recorded_again_kilobytes :
    let x : Binary64 := .ofDecimal true 15 1
    measured .default "rx=-1.5e2kb" = .ok (given "rx" x "kb") ∧
    ∃ state next r, Evaluator.empty.setValue (given "rx" x "kb") = .ok (state, next) ∧
      next.record? "rx" = some r ∧ r.token = "rx=-150KB;;;;" ∧
      ∃ again state' next', measured .default "rx=-150KB" = .ok again ∧
        Evaluator.empty.setValue again = .ok (state', next') ∧ next'.record? "rx" = some r := by
  intro x
  have hname : IsName "rx" := ⟨by decide, by decide, by decide⟩
  have hnone : Config.default.metric? "rx" = none := rfl
  have hvalue : IsValue "-1.5e2" "kb" x :=
    isValue_of_all (eq_ok_of_toOption (by decide +kernel)) (by decide) (by decide) (by decide)
  obtain ⟨hread, hset⟩ := recorded_again hname hnone hvalue
  obtain ⟨htaken, hrecorded⟩ := hset .empty ⟨rfl, rfl⟩
  obtain ⟨state, next, hstored⟩ := htaken.2 (.inr ⟨.kilobytes, by decide⟩)
  obtain ⟨r, hr, hx, hgiven, htoken, hagain⟩ := hrecorded state next hstored
  have hscale : r.scale = some .kilobytes := by
    cases hs : r.scale with
    | none =>
      rw [hs] at hgiven
      exact absurd (show "kb" = "" from hgiven) (by decide)
    | some s =>
      rw [hs] at hgiven
      have hkilobytes : Scale.folded Scale.kilobytes.token = Scale.folded "kb" := by decide
      exact congrArg some (Scale.folded_token_injective (hgiven.trans hkilobytes.symm))
  have hreading : r.reading = "-150KB" := by
    unfold Record.reading
    rw [hx, hscale]
    decide +kernel
  obtain ⟨again, hreread, hrestored⟩ := hagain (by decide +kernel) (by decide +kernel)
  obtain ⟨state', next', hstored', hr'⟩ := hrestored .empty ⟨rfl, rfl⟩
  rw [hreading] at htoken hreread
  exact ⟨hread, state, next, r, hstored, hr, htoken, again, state', next', hreread, hstored', hr'⟩

end Argument

end ThresholdCheck
