import ThresholdCheck.CommandLine.Parsing
import ThresholdCheck.Evaluator
import ThresholdCheck.Text.Uppercase

/-!
# Plugins: options, thresholds and a life of two parts

A plugin is set up first and started once.

* Before the start it takes options (`Plugin.addOption`) and severities (`Plugin.enable`). Names and
  flags that every plugin has are reserved, and none is taken twice.
* `Plugin.start` reads the command line. What it gave is opened into a `Session`
  (`Plugin.openSession`): the values of the options, the free arguments, and an evaluator with the
  ranges of the enabled severities.
* From then on it takes measurements, ranges and a message, and reports (`Plugin.finish`).
-/

namespace ThresholdCheck

open CommandLine (Opt Choice Behaviour Definition Word Given)

/-! ## 1. Options of a plugin -/

/-- An option that a plugin adds to those every plugin has. -/
structure CustomOption where
  name : String
  help : String
  short : Option Char
  choice : Choice

/-- The option as the command line knows it; its value is called by its name in capitals. -/
def CustomOption.toOpt (o : CustomOption) : Opt where
  name := o.name
  short := o.short
  valueName := Text.capitals o.name
  help := o.help
  behaviour := .chosen o.choice

/-- The option that is counted to make a plugin tell more. -/
def verboseOption : Opt where
  name := "verbose"
  short := some 'v'
  valueName := ""
  help := "Get more verbose status output. Can be specified up to three times"
  behaviour := .counted

/-- The option that gives ranges for a severity. -/
def severityOption (s : Severity) : Opt where
  name := s.name
  short := some s.flag
  valueName := "RANGE"
  help := "Set the " ++ s.name ++ " notification level (comma-separated for several metrics)"
  behaviour := .collected

/-- The names that no added option may have. -/
def reservedNames : List String :=
  ["help", "version", "verbose", "warning", "critical", "arguments"]

/-- The flags that no added option may have. -/
def reservedFlags : List Char := ['h', 'V', 'v', 'w', 'c']

/-! ## 2. Sessions and plugins -/

/-- What a started plugin has: the values of its options, the free arguments, how much it is to
    tell, and the evaluator. -/
structure Session where
  values : List (String × String)
  arguments : List String
  verbosity : Nat
  evaluator : Evaluator
deriving DecidableEq

/-- A plugin. A severity is enabled with the answer to whether each measurement needs a range. -/
structure Plugin where
  name : String
  about : String
  version : String
  mode : Mode
  argumentsName : String
  argumentsHelp : String
  options : List CustomOption
  warning : Option Bool
  critical : Option Bool
  message : Option String
  session : Option Session

namespace Plugin

/-- A plugin with nothing added to it. -/
def new (name about version : String) : Plugin where
  name := name
  about := about
  version := version
  mode := .zeroFloor
  argumentsName := "ARGS"
  argumentsHelp := "Additional arguments"
  options := []
  warning := none
  critical := none
  message := none
  session := none

/-- Whether the plugin was started. -/
def isStarted (p : Plugin) : Bool := p.session.isSome

/-! ## 3. Before the start -/

/-- Adds an option, unless its name or its flag is taken. -/
def addOption (p : Plugin) (o : CustomOption) : Except Fault Plugin :=
  if p.isStarted then .error (.misuse .alreadyStarted)
  else if o.name ∈ reservedNames ∨ o.name ∈ p.options.map CustomOption.name then
    .error (.misuse (.optionTaken o.name))
  else
    match o.short with
    | none => .ok { p with options := p.options ++ [o] }
    | some flag =>
      if flag ∈ reservedFlags ∨ some flag ∈ p.options.map CustomOption.short then
        .error (.misuse (.flagTaken flag))
      else .ok { p with options := p.options ++ [o] }

/-- Accepts ranges for a severity. -/
def enable (p : Plugin) (severity : Severity) (required : Bool) : Except Fault Plugin :=
  if p.isStarted then .error (.misuse .alreadyStarted)
  else
    match severity with
    | .warning => .ok { p with warning := some required }
    | .critical => .ok { p with critical := some required }

/-- Whether a severity is enabled, and then whether each measurement needs a range. -/
def enabled? (p : Plugin) : Severity → Option Bool
  | .warning => p.warning
  | .critical => p.critical

/-- The enabled severities, each with whether every measurement needs a range. -/
def enabled (p : Plugin) : List (Severity × Bool) :=
  Severity.all.filterMap fun s => (p.enabled? s).map fun required => (s, required)

/-- The command line of the plugin. -/
def definition (p : Plugin) : Definition where
  name := p.name
  about := p.about
  version := p.version
  options :=
    verboseOption :: p.enabled.map (fun s => severityOption s.1) ++ p.options.map CustomOption.toOpt
  argumentsName := p.argumentsName
  argumentsHelp := p.argumentsHelp

/-- The help page of the plugin under its own name. -/
def helpPage (p : Plugin) : String := Text.printable (CommandLine.helpPage p.definition p.name)

/-- How much the command line asks the plugin to tell, whatever else is on it. Lines that make the
    program abort for want of a count are outside of it: those with a misspelt `--verbose` and no
    `-v` before it, and those that give an option of one value twice or have a word that cannot be
    decoded. -/
def requestedVerbosity (p : Plugin) (words : List Word) : Nat :=
  p.definition.countedTolerantly words

/-! ## 4. The start -/

/-- The ranges of several lists, in order. -/
def collectRanges (mode : Mode) (texts : List String) : Except Fault ThresholdSet :=
  texts.foldlM ThresholdSet.append (ThresholdSet.empty mode)

/-- Puts the ranges that were given in force, one enabled severity after the other. -/
def openEvaluator (mode : Mode) (given : Given) :
    List (Severity × Bool) → Evaluator → Except Fault Evaluator
  | [], e => .ok e
  | (severity, required) :: rest, e => do
    let ranges ← collectRanges mode (given.valuesOf severity.name)
    openEvaluator mode given rest (e.enable severity ranges required)

/-- The session of what a command line gave. -/
def openSession (p : Plugin) (given : Given) : Except Fault Session := do
  let evaluator ← openEvaluator p.mode given p.enabled Evaluator.empty
  return {
    values := p.options.filterMap fun o => (given.valuesOf o.name).head?.map fun v => (o.name, v)
    arguments := given.arguments
    verbosity := given.count
    evaluator }

/-- Starts the plugin with a command line, of which the first word names the program. -/
def start (p : Plugin) (words : List Word) : Except Fault Plugin := do
  if p.isStarted then throw (.misuse .alreadyStarted)
  let given ← (p.definition.parse words).mapError Fault.commandLine
  let session ← p.openSession given
  return { p with session := some session }

/-! ## 5. After the start -/

/-- The session, which there is after the start only. -/
def currentSession (p : Plugin) : Except Fault Session :=
  match p.session with
  | some s => .ok s
  | none => .error (.misuse .notStarted)

/-- The value of an added option that was given or has one that stands in. -/
def option? (p : Plugin) (name : String) : Option String :=
  p.session.bind fun s => s.values.lookup name

/-- The free arguments. -/
def arguments (p : Plugin) : List String := (p.session.map Session.arguments).getD []

/-- How much the plugin is to tell. -/
def verbosity (p : Plugin) : Nat := (p.session.map Session.verbosity).getD 0

/-- The evaluator. -/
def evaluator? (p : Plugin) : Option Evaluator := p.session.map Session.evaluator

/-- The plugin with another evaluator in its session. -/
def withEvaluator (p : Plugin) (s : Session) (e : Evaluator) : Plugin :=
  { p with session := some { s with evaluator := e } }

/-- Evaluates a measurement and stores its record; gives the state too. -/
def setValue (p : Plugin) (m : Measurement) : Except Fault (Status × Plugin) := do
  let s ← p.currentSession
  let (status, e) ← s.evaluator.setValue m
  return (status, p.withEvaluator s e)

/-- Sets the range of an enabled severity at a slot. -/
def setRange (p : Plugin) (severity : Severity) (slot : Nat) (bottom top : Binary64)
    (inverted : Bool) : Except Fault Plugin := do
  let s ← p.currentSession
  if (s.evaluator.threshold severity).isNone then throw (.misuse (.notEnabled severity))
  let e ← s.evaluator.changeRanges severity fun r => r.setSlot slot bottom top inverted
  return p.withEvaluator s e

/-- Sets the message of the report. -/
def setMessage (p : Plugin) (message : String) : Plugin :=
  { p with message := some (Report.sanitize message) }

/-- The report of the records so far. -/
def finish (p : Plugin) : Except Fault Report := do
  let s ← p.currentSession
  return s.evaluator.report p.message

end Plugin

end ThresholdCheck
