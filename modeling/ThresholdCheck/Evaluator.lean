import ThresholdCheck.Measurement
import ThresholdCheck.Report
import ThresholdCheck.ThresholdSet

/-!
# Evaluating measurements

An evaluator holds the thresholds of the severities that are enabled, and the records so far.

* `Evaluator.judge` makes the record of a measurement: it tests the value against the range at its
  slot, for warning and for critical, and the critical verdict wins. A severity without a range at
  the slot is passed over, unless it is required.
* `Evaluator.setValue` stores that record. A name has one record, at the place of its first one
  (`store`).
-/

namespace ThresholdCheck

/-! ## 1. Thresholds -/

/-- The ranges of an enabled severity, and whether each measurement needs one. -/
structure Threshold where
  ranges : ThresholdSet
  required : Bool
deriving DecidableEq

/-- The text of the range that a value violates at a slot, if it violates one. -/
def Threshold.matched (severity : Severity) (slot : Nat) (value : Binary64) :
    Option Threshold → Except Fault (Option String)
  | none => .ok none
  | some t =>
    match t.ranges.get? slot with
    | none => if t.required then .error (.missingThreshold severity slot) else .ok none
    | some range => .ok (if range.violatedBy value then some range.raw else none)

/-! ## 2. Records by name -/

/-- Puts a record in the place of the one with its name, or last if there is none. -/
def store (record : Record) : List Record → List Record
  | [] => [record]
  | r :: rs => if r.name = record.name then record :: rs else r :: store record rs

/-! ## 3. The evaluator -/

/-- The thresholds in force and the records so far. -/
structure Evaluator where
  warning : Option Threshold
  critical : Option Threshold
  records : List Record
deriving DecidableEq

namespace Evaluator

/-- No thresholds and no records. -/
def empty : Evaluator := ⟨none, none, []⟩

/-- The threshold of a severity. -/
def threshold (e : Evaluator) : Severity → Option Threshold
  | .warning => e.warning
  | .critical => e.critical

/-- The evaluator with the threshold of a severity put in force. -/
def withThreshold (e : Evaluator) (t : Threshold) : Severity → Evaluator
  | .warning => { e with warning := some t }
  | .critical => { e with critical := some t }

/-- Enables a severity, or replaces its ranges. -/
def enable (e : Evaluator) (severity : Severity) (ranges : ThresholdSet) (required : Bool) :
    Evaluator :=
  e.withThreshold ⟨ranges, required⟩ severity

/-- Changes the ranges of a severity by a change that may fail. Where the severity is not enabled,
    nothing is changed. -/
def changeRanges (e : Evaluator) (severity : Severity)
    (change : ThresholdSet → Except Fault ThresholdSet) : Except Fault Evaluator :=
  match e.threshold severity with
  | none => .ok e
  | some t => (change t.ranges).map fun ranges => e.withThreshold { t with ranges } severity

/-- Changes whether each measurement needs a range of the severity. -/
def setRequired (e : Evaluator) (severity : Severity) (required : Bool) : Evaluator :=
  match e.threshold severity with
  | none => e
  | some t => e.withThreshold { t with required } severity

/-- The state of a measurement by the texts of the ranges that it violates. -/
def stateOf (warning critical : Option String) : Status :=
  if critical.isSome then .critical else if warning.isSome then .warning else .ok

/-- The unit that a text spells, where one is given. -/
def readScale : Option String → Except Fault (Option Scale)
  | none => .ok none
  | some text =>
    match Scale.ofText? text with
    | some scale => .ok (some scale)
    | none => .error (.unknownScale text)

/-- The record of a measurement under the thresholds in force. -/
def judge (e : Evaluator) (m : Measurement) : Except Fault Record :=
  if m.slot = 0 then .error (.misuse (.slotZero m.name))
  else if m.value.isNaN then .error (.notNumeric m.name m.value.text)
  else do
    let scale ← readScale m.scale
    let warning ← Threshold.matched .warning m.slot m.value e.warning
    let critical ← Threshold.matched .critical m.slot m.value e.critical
    return {
      name := m.name, value := m.value, min := m.min, max := m.max, scale, slot := m.slot,
      state := stateOf warning critical, warning, critical }

/-- Evaluates a measurement and stores its record; gives the state too. -/
def setValue (e : Evaluator) (m : Measurement) : Except Fault (Status × Evaluator) :=
  (e.judge m).map fun record => (record.state, { e with records := store record e.records })

/-- The record of a name. -/
def record? (e : Evaluator) (name : String) : Option Record :=
  e.records.find? fun r => r.name == name

/-- The report of the records so far. -/
def report (e : Evaluator) (message : Option String) : Report := Report.ofRecords e.records message

end Evaluator

end ThresholdCheck
