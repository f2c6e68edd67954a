import ThresholdCheck.Proofs.CommandLine.Counting
import ThresholdCheck.Proofs.Fallible
import ThresholdCheck.Plugin.Basic

/-!
# How much a plugin is asked to tell

How much a plugin is to tell is known before its start, from a tolerant reading of the command line
that it will be started with.

* `verbosity_of_start`: a plugin that was started is to tell as much as its command line counts;
* **`requestedVerbosity_of_start`**: what is asked for before a start that succeeds is what the plugin
  is to tell after it;
* **`requestedVerbosity_undefined`**: an option that is not known ends the reading: what stands before
  it is counted and nothing behind it, so that it matters where the option stands
  (`requestedVerbosity_undefinedFirst`).
-/

namespace ThresholdCheck.Plugin

open CommandLine (Word Definition)

variable {p started : Plugin} {program flag : Word} {words : List Word}

/-! ## 1. A start that succeeds -/

/-- A plugin that was started is to tell as much as its command line counts. -/
theorem verbosity_of_start (h : p.start words = .ok started) :
    ∃ given, p.definition.parse words = .ok given ∧ started.verbosity = given.count := by
  unfold start at h
  by_cases hstarted : p.isStarted = true
  · rw [if_pos hstarted] at h
    cases h
  · rw [if_neg hstarted] at h
    obtain ⟨given, hgiven, h⟩ := bind_eq_ok h
    obtain ⟨session, hsession, h⟩ := bind_eq_ok h
    obtain ⟨evaluator, -, hsession⟩ := bind_eq_ok hsession
    cases h
    cases hsession
    exact ⟨given, mapError_eq_ok hgiven, rfl⟩

/-- A start succeeds if its verbosity can be computed. -/
theorem exists_start_of_verbosity {n : Nat}
    (h : (p.start words).toOption.map verbosity = some n) :
    ∃ started, p.start words = .ok started ∧ started.verbosity = n := by
  obtain ⟨started, hstarted, hverbosity⟩ := Option.map_eq_some_iff.1 h
  exact ⟨started, eq_ok_of_toOption hstarted, hverbosity⟩

/-- **What is asked for before a start that succeeds is what the plugin is to tell after it.** -/
theorem requestedVerbosity_of_start (h : p.start words = .ok started) :
    p.requestedVerbosity words = started.verbosity := by
  obtain ⟨given, hgiven, hverbosity⟩ := verbosity_of_start h
  rw [hverbosity]
  exact Definition.countedTolerantly_of_parse hgiven

/-- Joined flags count, also before one with a range that begins with a hyphen; behind `--` none
    does. -/
theorem requestedVerbosity_of_start_joined :
    let p := { Plugin.new "check_test" "A test" "1.0" with warning := some true }
    let words := ["check_test", "-vw", "-5:5", "disk", "--verbose", "--", "-v"].map Word.ofString
    ∃ started, p.start words = .ok started ∧ started.verbosity = 2 ∧
      p.requestedVerbosity words = 2 := by
  intro p words
  have accepted : (p.start words).toOption.map verbosity = some 2 := by decide +kernel
  obtain ⟨started, hstart, hverbosity⟩ := exists_start_of_verbosity accepted
  exact ⟨started, hstart, hverbosity, hverbosity ▸ requestedVerbosity_of_start hstart⟩

/-! ## 2. Options that are not known -/

/-- **An option that is not known ends the reading.** Behind words that the plugin could be started
    with they count as they do at the start, whatever follows the option; where it comes first nothing
    is counted. -/
theorem requestedVerbosity_undefined (h : p.start (program :: words) = .ok started)
    (options : Word.ofString "--" ∉ words) (undefined : p.definition.Undefined flag) :
    (∀ rest, p.requestedVerbosity (program :: (words ++ flag :: rest)) = started.verbosity) ∧
      ∀ rest, p.requestedVerbosity (program :: flag :: rest) = 0 := by
  obtain ⟨given, hgiven, hverbosity⟩ := verbosity_of_start h
  constructor
  · intro rest
    rw [hverbosity]
    exact Definition.countedTolerantly_undefined hgiven options undefined rest
  · intro rest
    exact Definition.countedTolerantly_undefined_first undefined rest

theorem requestedVerbosity_undefined_bogus :
    let p := { Plugin.new "check_test" "A test" "1.0" with warning := some true }
    let program := Word.ofString "check_test"
    let flag := Word.ofString "--bogus"
    let words := ["-vw", "-5:5", "disk", "-v"].map Word.ofString
    ∃ started, p.start (program :: words) = .ok started ∧ started.verbosity = 2 ∧
      Word.ofString "--" ∉ words ∧ p.definition.Undefined flag ∧
      p.requestedVerbosity (program :: (words ++ [flag])) = 2 ∧
      p.requestedVerbosity (program :: flag :: words) = 0 := by
  intro p program flag words
  have accepted : (p.start (program :: words)).toOption.map verbosity = some 2 := by decide +kernel
  obtain ⟨started, hstart, hverbosity⟩ := exists_start_of_verbosity accepted
  have options : Word.ofString "--" ∉ words := by decide
  have undefined : p.definition.Undefined flag :=
    (Definition.undefined_iff "bogus" (by decide) (by decide)).2 (by decide)
  obtain ⟨hlast, hfirst⟩ := requestedVerbosity_undefined hstart options undefined
  exact ⟨started, hstart, hverbosity, options, undefined, hverbosity ▸ hlast [], hfirst words⟩

/-- The same words are counted before an option that is not known, and not behind it. -/
theorem requestedVerbosity_undefinedFirst :
    let p := Plugin.new "check_test" "This is just a test plugin." "1.2.3"
    let program := Word.ofString "check_test"
    let flag := Word.ofString "--bogus"
    let words := [Word.ofString "-v"]
    (∃ started, p.start (program :: words) = .ok started ∧ started.verbosity = 1) ∧
      Word.ofString "--" ∉ words ∧ p.definition.Undefined flag ∧
      p.requestedVerbosity (program :: (words ++ [flag])) = 1 ∧
      p.requestedVerbosity (program :: flag :: words) = 0 := by
  intro p program flag words
  have undefined : p.definition.Undefined flag :=
    (Definition.undefined_iff "bogus" (by decide) (by decide)).2 (by decide)
  exact ⟨exists_start_of_verbosity (by decide +kernel), by decide, undefined, by decide +kernel,
    by decide +kernel⟩

end ThresholdCheck.Plugin
