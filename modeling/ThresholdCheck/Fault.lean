import ThresholdCheck.Binary64.Literal
import ThresholdCheck.CommandLine.Rejection
import ThresholdCheck.Status

/-!
# Faults: what can go wrong in a check

A fault is kept as its cause, with what the user wrote and where it did not fit; its wording is in
`Fault.message` alone. No fault is recovered from: whoever runs a check reports it as the status
unknown. The one exception is a command line that only asked for a text (`Fault.isAnswer`).
-/

namespace ThresholdCheck

/-- Why a text is no range. -/
inductive RangeFault where
  /-- there is nothing to read -/
  | empty
  /-- a list has nothing between two commas or beside one -/
  | emptySegment
  /-- a bound is no number literal -/
  | notANumber (bound : String) (cause : Binary64.LiteralFault)
  /-- a bound is NaN -/
  | nanBound
deriving DecidableEq

/-- What the fault says to a reader. -/
def RangeFault.message : RangeFault → String
  | .empty => "range is empty"
  | .emptySegment => "contains an empty range"
  | .notANumber bound cause => "'" ++ bound ++ "' is not a number: " ++ cause.message
  | .nanBound => "NaN is not a valid bound"

/-- A use of the check that its rules do not allow. -/
inductive Misuse where
  /-- a bound set for a slot is NaN -/
  | nanBounds (slot : Nat)
  /-- a measurement asks for slot 0 -/
  | slotZero (name : String)
  /-- the name of an option is taken -/
  | optionTaken (name : String)
  /-- the short flag of an option is taken -/
  | flagTaken (flag : Char)
  /-- the plugin was started before -/
  | alreadyStarted
  /-- the plugin was not started yet -/
  | notStarted
  /-- a severity has no thresholds -/
  | notEnabled (severity : Severity)
  /-- an argument has no `=` -/
  | notAMeasurement (argument : String)
  /-- an argument has nothing before its `=` -/
  | namelessMeasurement (argument : String)
deriving DecidableEq

/-- What the misuse says to a reader. -/
def Misuse.message : Misuse → String
  | .nanBounds slot => "range bounds for slot " ++ toString slot ++ " must not be NaN"
  | .slotZero name => "threshold slot for '" ++ name ++ "' must be at least 1"
  | .optionTaken name => "option '" ++ name ++ "' is already defined"
  | .flagTaken flag => "option flag '-" ++ flag.toString ++ "' is already defined"
  | .alreadyStarted => "the plugin has already been started"
  | .notStarted => "start must be called first"
  | .notEnabled severity => severity.name ++ " thresholds are not enabled"
  | .notAMeasurement argument =>
    "measurement '" ++ argument ++ "' must look like NAME=VALUE[UNIT]"
  | .namelessMeasurement argument => "measurement '" ++ argument ++ "' has no name"

/-- What can go wrong while a check is set up or run. -/
inductive Fault where
  /-- a text is no range, or no list of ranges -/
  | range (text : String) (cause : RangeFault)
  /-- a required severity has no range at the slot of a measurement -/
  | missingThreshold (severity : Severity) (slot : Nat)
  /-- a range is set beyond the first free slot, or at slot 0 -/
  | slotGap (slot len : Nat)
  /-- a measured value is no number -/
  | notNumeric (name text : String)
  /-- a unit of measure is not known -/
  | unknownScale (text : String)
  /-- the check is not used by its rules -/
  | misuse (cause : Misuse)
  /-- the command line is not run -/
  | commandLine (rejection : CommandLine.Rejection)

namespace Fault

/-- What the fault says to a reader. -/
def message : Fault → String
  | range text cause => "invalid range '" ++ text ++ "': " ++ cause.message
  | missingThreshold severity slot =>
    "slot " ++ toString slot ++ " of " ++ severity.name ++ " threshold not set"
  | slotGap slot len =>
    "cannot set threshold slot " ++ toString slot ++ " when only " ++ toString len ++
      " slot(s) are defined; slots must be filled in order"
  | notNumeric name text =>
    "performance measure '" ++ name ++ "' must be numeric, got '" ++ text ++ "'"
  | unknownScale text =>
    "invalid scale '" ++ text ++ "': must be one of B, KB, MB, GB, TB, s, ms, us, ns, or %"
  | misuse cause => cause.message
  | commandLine rejection => rejection.message

/-- Whether the fault is no fault but the text that a command line asked for. -/
def isAnswer : Fault → Bool
  | commandLine rejection => rejection.isAnswer
  | _ => false

end Fault

end ThresholdCheck
