import ThresholdCheck.Argument
import ThresholdCheck.Plugin.Basic

/-!
# The check

The check evaluates the measurements that are given as free arguments against the ranges that are
given for warning and critical, under a configuration.

* `Check.plugin` is the plugin of the check, before its start;
* `Check.verdict` is the report on what a command line gave: ranges first, then the measurements in
  their order, and the first fault ends it;
* `check` reads the command line and gives the verdict on it.
-/

namespace ThresholdCheck

open CommandLine (Word Given)

namespace Check

/-- The option that gives the message of the report. -/
def messageOption : CustomOption where
  name := "message"
  help := "Text to show after the status word"
  short := some 'm'
  choice := ⟨false, none, .ok⟩

/-- The plugin of the check under a configuration. -/
def plugin (config : Config) : Plugin :=
  { Plugin.new "nagrange" "Evaluate measurements against warning and critical threshold ranges"
      "0.1.0" with
    mode := config.mode
    argumentsName := "MEASUREMENT"
    argumentsHelp := "Measurements to check, each as NAME=VALUE[UNIT]"
    options := [messageOption]
    warning := some (config.required .warning)
    critical := some (config.required .critical) }

/-- Evaluates the measurement that an argument stands for. -/
def evaluate (config : Config) (e : Evaluator) (text : String) : Except Fault Evaluator := do
  let argument ← Argument.parse text
  let (_, e) ← e.setValue (argument.measurement config)
  return e

/-- The report on what a command line gave. -/
def verdict (config : Config) (given : Given) : Except Fault Report := do
  let session ← (plugin config).openSession given
  let e ← session.arguments.foldlM (evaluate config) session.evaluator
  return e.report ((session.values.lookup messageOption.name).map Report.sanitize)

end Check

/-- The report on a command line, of which the first word names the program. -/
def check (config : Config) (words : List Word) : Except Fault Report := do
  let given ← ((Check.plugin config).definition.parse words).mapError Fault.commandLine
  Check.verdict config given

end ThresholdCheck
