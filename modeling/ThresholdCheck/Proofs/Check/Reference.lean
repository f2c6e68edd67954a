import ThresholdCheck.Check
import ThresholdCheck.Proofs.Evaluator.Records

/-!
# What a check is to answer

`reference` says it without an evaluator and without a state, from the texts that a command line
gave: the lists of ranges for warning and for critical, the message and the measurements.

* The ranges of a severity are those of all segments of its lists, in order (`rangesOf`).
* With the ranges in force (`Setting`), each measurement has a fault of its own
  (`Setting.fault?`), and the first one ends the check.
* Otherwise each name has one record, that of its last measurement, and the names stand in the
  order in which they came up first (`Setting.records`).
-/

namespace ThresholdCheck.Check

/-! ## 1. Ranges -/

/-- The range in a segment of a list. A blank segment is a fault of the list, unless it is all of
    it. -/
def rangeIn (mode : Mode) (whole segment : String) : Except Fault Range :=
  if Text.isBlankText segment.toList ∧ segment ≠ whole then .error (.range whole .emptySegment)
  else Range.parse mode segment

/-- The segments of several lists in order, each with its list. -/
def segmentsOf (texts : List String) : List (String × String) :=
  texts.flatMap fun text => (Range.segments text).map fun segment => (text, segment)

/-- The ranges of several lists in order. -/
def rangesOf (mode : Mode) (texts : List String) : Except Fault (List Range) :=
  (segmentsOf texts).mapM fun (whole, segment) => rangeIn mode whole segment

/-! ## 2. Measurements -/

/-- A configuration, and the ranges in force under it. -/
structure Setting where
  config : Config
  warning : List Range
  critical : List Range

namespace Setting

variable (s : Setting)

/-- The ranges of a severity. -/
def ranges : Severity → List Range
  | .warning => s.warning
  | .critical => s.critical

/-- What is declared of the name of a measurement. -/
def declared (a : Argument) : Declaration :=
  (s.config.metric? a.name).getD (Declaration.plain a.name)

/-- Whether a measurement needs a range of a severity and there is none at its slot. -/
def lacksRange (severity : Severity) (a : Argument) : Prop :=
  s.config.required severity = true ∧ (s.ranges severity).length < (s.declared a).slot

instance (severity : Severity) (a : Argument) : Decidable (s.lacksRange severity a) :=
  inferInstanceAs (Decidable (_ ∧ _))

/-- The fault of a measurement, if it has one. -/
def fault? (text : String) : Option Fault :=
  match Argument.parse text with
  | .error fault => some fault
  | .ok a =>
    if a.unit ≠ "" ∧ Scale.ofText? a.unit = none then some (.unknownScale a.unit)
    else if s.lacksRange .warning a then some (.missingThreshold .warning (s.declared a).slot)
    else if s.lacksRange .critical a then some (.missingThreshold .critical (s.declared a).slot)
    else none

/-- The range of a severity that a measurement violates. -/
def violated? (severity : Severity) (a : Argument) : Option Range :=
  (s.ranges severity)[(s.declared a).slot - 1]?.filter fun r => r.violatedBy a.value

/-- The verdict on a measurement. -/
def state (a : Argument) : Status :=
  if (s.violated? .critical a).isSome then .critical
  else if (s.violated? .warning a).isSome then .warning
  else .ok

/-- The record of a measurement. -/
def record (a : Argument) : Record where
  name := a.name
  value := a.value
  min := (s.declared a).min
  max := (s.declared a).max
  scale := if a.unit = "" then (s.declared a).scale else Scale.ofText? a.unit
  slot := (s.declared a).slot
  state := s.state a
  warning := (s.violated? .warning a).map Range.raw
  critical := (s.violated? .critical a).map Range.raw

/-- The records of all measurements. -/
def records (as : List Argument) : List Record :=
  (as.map Argument.name).eraseDups.filterMap fun n =>
    (lastWrite? Argument.name as n).map s.record

end Setting

/-! ## 3. The report -/

/-- The worst state of records. -/
def worstState (rs : List Record) : Status :=
  if ∃ r ∈ rs, r.state = .critical then .critical
  else if ∃ r ∈ rs, r.state = .warning then .warning
  else .ok

/-- The status line of a state, a message and records. -/
def statusLine (state : Status) (message : Option String) (rs : List Record) : String :=
  "Status " ++ state.word ++ ((message.map fun m => ", " ++ Report.sanitize m).getD "") ++
    (if rs = [] then "" else "|" ++ " ".intercalate (rs.map Record.token))

/-- The arguments that texts stand for. -/
def argumentsOf (texts : List String) : List Argument :=
  texts.filterMap fun text => (Argument.parse text).toOption

/-- What a check is to answer to the texts of a command line. -/
def reference (config : Config) (warning critical : List String) (message : Option String)
    (measurements : List String) : Except Fault Report := do
  let warningRanges ← rangesOf config.mode warning
  let criticalRanges ← rangesOf config.mode critical
  let s : Setting := ⟨config, warningRanges, criticalRanges⟩
  match measurements.findSome? s.fault? with
  | some fault => .error fault
  | none =>
    let rs := s.records (argumentsOf measurements)
    .ok ⟨worstState rs, statusLine (worstState rs) message rs⟩

end ThresholdCheck.Check
