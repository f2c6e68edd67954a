import ThresholdCheck.Argument
import ThresholdCheck.Evaluator
import ThresholdCheck.Proofs.Text.Parts

/-!
# What is known of an argument that was read

* `Measurement.parse_eq_ok`: what a measurement that was read is made of, and
  `Measurement.parse_eq_error`: with which fault it is refused;
* **`Argument.parse_eq_ok`**: what an argument is made of;
* so its value is a number (`Argument.value_not_nan`), and its name has no `=` in it
  (`Argument.equals_not_mem_name`);
* `Argument.readScale_eq`: its unit is read as it was given, or is the declared one.
-/

namespace ThresholdCheck

/-- A measurement that was read is a name with a number, and nothing else is known of it. -/
theorem Measurement.parse_eq_ok {name text : String} {m : Measurement}
    (h : Measurement.parse name text = .ok m) :
    ∃ x, Binary64.ofLiteral (Text.trim text.toList) = .ok x ∧ x.isNaN = false ∧
      m = .plain name x := by
  unfold Measurement.parse at h
  cases hread : Binary64.ofLiteral (Text.trim text.toList) with
  | error cause =>
    rw [hread] at h
    cases h
  | ok x =>
    rw [hread] at h
    dsimp only at h
    cases hnan : x.isNaN with
    | true =>
      rw [hnan] at h
      cases h
    | false =>
      rw [hnan] at h
      cases h
      exact ⟨x, rfl, hnan, rfl⟩

/-- One that is refused is told with its name and its text. -/
theorem Measurement.parse_eq_error {name text : String} {fault : Fault}
    (h : parse name text = .error fault) : fault = .notNumeric name text := by
  unfold parse at h
  split at h
  · split at h
    · exact (Except.error.inj h).symm
    · cases h
  · exact (Except.error.inj h).symm

namespace Argument

/-- The unit in force is read as the one that was given, or is the one that is declared. -/
theorem readScale_eq (a : Argument) (declared : Option Scale) :
    Evaluator.readScale (a.scale declared) =
      if a.unit ≠ "" ∧ Scale.ofText? a.unit = none then .error (.unknownScale a.unit)
      else .ok (if a.unit = "" then declared else Scale.ofText? a.unit) := by
  unfold scale
  by_cases hunit : a.unit = ""
  · rw [if_pos hunit, if_pos hunit, if_neg fun h => h.1 hunit]
    cases declared with
    | none => rfl
    | some scale =>
      unfold Evaluator.readScale
      rw [Option.map_some]
      dsimp only
      rw [Scale.ofText?_token]
  · rw [if_neg hunit, if_neg hunit]
    unfold Evaluator.readScale
    dsimp only
    cases hscale : Scale.ofText? a.unit with
    | none => rw [if_pos ⟨hunit, rfl⟩]
    | some scale => rw [if_neg fun h => by cases h.2]

/-- What an argument that was read is made of. -/
theorem parse_eq_ok {text : String} {a : Argument} (h : parse text = .ok a) :
    ∃ name value, Text.cut '=' text.toList = some (name, value) ∧ Text.trim name ≠ [] ∧
      a.name = String.ofList (Text.trim name) ∧
      Binary64.ofLiteral (Text.trim (splitUnit (Text.trim value)).1) = .ok a.value ∧
      a.value.isNaN = false ∧ a.unit = String.ofList (splitUnit (Text.trim value)).2 := by
  unfold parse at h
  cases hcut : Text.cut '=' text.toList with
  | none =>
    rw [hcut] at h
    cases h
  | some parts =>
    obtain ⟨name, value⟩ := parts
    rw [hcut] at h
    dsimp only at h
    split at h
    · cases h
    · rename_i hname
      unfold ofParts at h
      dsimp only at h
      cases hread : Measurement.parse (String.ofList (Text.trim name))
          (String.ofList (splitUnit (Text.trim value)).1) with
      | error fault =>
        rw [hread] at h
        cases h
      | ok m =>
        obtain ⟨x, hx, hnan, rfl⟩ := Measurement.parse_eq_ok hread
        rw [hread] at h
        rw [String.toList_ofList] at hx
        cases h
        exact ⟨name, value, rfl, hname, rfl, hx, hnan, rfl⟩

/-- A value that was read is a number. -/
theorem value_not_nan {text : String} {a : Argument} (h : parse text = .ok a) :
    a.value.isNaN = false := by
  obtain ⟨name, value, -, -, -, -, hnan, -⟩ := parse_eq_ok h
  exact hnan

/-- A name that was read ends before the first `=`. -/
theorem equals_not_mem_name {text : String} {a : Argument} (h : parse text = .ok a) :
    '=' ∉ a.name.toList := by
  obtain ⟨name, value, hcut, -, hname, -⟩ := parse_eq_ok h
  obtain ⟨-, hbefore⟩ := Text.cut_eq_some_iff.1 hcut
  rw [hname, String.toList_ofList]
  exact fun hmem => hbefore (Text.mem_of_mem_trim hmem)

end Argument

end ThresholdCheck
