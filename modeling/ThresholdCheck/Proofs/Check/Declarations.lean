import ThresholdCheck.Check
import ThresholdCheck.Proofs.Argument.Declared

/-!
# How declarations reach a check

A check sees the declarations of its configuration through the lookup by name alone, and the lookup
of a consistent configuration does not depend on their order.

* `evaluate_eq_measured`: an argument is read into its measurement under the configuration, and the
  measurement is evaluated;
* `evaluate_congr`, `check_congr`: where two lists of declarations are the same to a lookup, they are
  so to an argument and to a check;
* **`check_declarations`**: consistent declarations may be given in any order, and each measurement
  takes from them what is declared of its name.
-/

namespace ThresholdCheck

namespace Check

open Argument (Written Completed measured)
open CommandLine (Word)

variable {config : Config} {metrics : List Declaration}

/-! ## 1. One argument -/

theorem evaluate_eq_measured (config : Config) (e : Evaluator) (text : String) :
    evaluate config e text = do
      let m ← measured config text
      let (_, e) ← e.setValue m
      return e := by
  rw [Argument.measured_eq]
  unfold evaluate
  cases Argument.parse text with
  | error fault => rfl
  | ok a => rfl

/-- An argument depends on the declarations through the one for its name. -/
theorem evaluate_congr
    (h : ∀ name, ({ config with metrics } : Config).metric? name = config.metric? name)
    (e : Evaluator) (text : String) :
    evaluate { config with metrics } e text = evaluate config e text := by
  unfold evaluate Argument.measurement
  simp only [h]

/-! ## 2. All arguments -/

theorem check_congr
    (h : ∀ name, ({ config with metrics } : Config).metric? name = config.metric? name)
    (words : List Word) : check { config with metrics } words = check config words := by
  have hstep : evaluate { config with metrics } = evaluate config :=
    funext fun e => funext (evaluate_congr h e)
  -- the plugin is set up from the rest of the configuration
  have hplugin : plugin { config with metrics } = plugin config := rfl
  unfold check verdict
  rw [hstep, hplugin]

/-- **The order of declarations does not matter, and each name gets its own.** Consistent
    declarations are consistent in any order, with the same lookups, and every check comes to the
    same report or fault. A text stands for a measurement exactly if it is written as an argument,
    whose name and value it has then; its slot, bounds and unit are those that are declared of its
    name, and a unit that was given wins. Whether it does, and with which fault not, is the same
    under every configuration. -/
theorem check_declarations (config : Config) :
    (config.fault? = none → ∀ metrics : List Declaration, metrics.Perm config.metrics →
      ({ config with metrics } : Config).fault? = none ∧
      (∀ name, ({ config with metrics } : Config).metric? name = config.metric? name) ∧
      ∀ words, check { config with metrics } words = check config words) ∧
    (config.fault? = none → ∀ name d,
      config.metric? name = some d ↔ d ∈ config.metrics ∧ d.name = name) ∧
    (∀ text m, measured config text = .ok m ↔ ∃ a, Written text a ∧ Completed config a m) ∧
    ∀ other text, Agree (fun m m' => m.name = m'.name ∧ m.value = m'.value)
      (measured config text) (measured other text) := by
  refine ⟨fun h metrics perm => ?_, fun h name d => ?_, fun text m => ?_, fun other text => ?_⟩
  · have hlookup := Config.metric?_perm h perm
    exact ⟨Config.fault?_perm h perm, hlookup, check_congr hlookup⟩
  · exact Config.metric?_eq_some_iff h
  · exact Argument.measured_eq_ok_iff
  · exact Argument.measured_agree config other text

/-- Two declarations change places. The one for the disk has it tested against the second range. -/
theorem check_declarations_swapped :
    let disk : Declaration := ⟨"disk", some .percent, none, some (.ofDecimal false 1 2), 2⟩
    let load : Declaration := ⟨"load", none, some .zero, none, 1⟩
    let words := ["nagrange", "-w", "10,50", "disk=60", "load=35s"].map Word.ofString
    check ⟨.zeroFloor, false, false, [load, disk]⟩ words =
      .ok ⟨.warning, "Status Warning|disk=60%;50;;;100 load=35s;10;;0;"⟩ := by
  intro disk load words
  let config : Config := ⟨.zeroFloor, false, false, [disk, load]⟩
  have hconsistent : config.fault? = none := by decide +kernel
  have reported : check config words =
      .ok ⟨.warning, "Status Warning|disk=60%;50;;;100 load=35s;10;;0;"⟩ :=
    eq_ok_of_toOption (by decide +kernel)
  obtain ⟨hreordered, -⟩ := check_declarations config
  obtain ⟨-, -, hcheck⟩ := hreordered hconsistent [load, disk] (.swap disk load [])
  exact (hcheck words).trans reported

end Check

end ThresholdCheck
