/-!
# Status: what a check reports

* a *severity* is a class of ranges, warning or critical (`Severity`);
* a *status* is the outcome told to the monitoring supervisor (`Status`), ordered by how bad it is,
  with the exit code the supervisor expects. A violated range has the status of its severity
  (`Severity.status`); the status unknown is never the outcome of a measurement.
-/

namespace ThresholdCheck

/-! ## 1. Severity -/

/-- A class of ranges. -/
inductive Severity where
  | warning
  | critical
deriving DecidableEq

namespace Severity

/-- The name of the severity, which is also its long option. -/
def name : Severity → String
  | warning => "warning"
  | critical => "critical"

/-- The short option of the severity. -/
def flag : Severity → Char
  | warning => 'w'
  | critical => 'c'

/-- Both severities, the milder one first. -/
def all : List Severity := [warning, critical]

end Severity

/-! ## 2. Status -/

/-- The outcome of a check. -/
inductive Status where
  | ok
  | warning
  | critical
  | unknown
deriving DecidableEq

namespace Status

/-- The word that stands for the status in the status line. -/
def word : Status → String
  | ok => "Ok"
  | warning => "Warning"
  | critical => "Critical"
  | unknown => "Unknown"

/-- The exit code the supervisor expects; a worse status has a larger code. -/
def exitCode : Status → Nat
  | ok => 0
  | warning => 1
  | critical => 2
  | unknown => 3

/-- The worse of two statuses. -/
def worse (a b : Status) : Status := if a.exitCode ≤ b.exitCode then b else a

@[simp] theorem exitCode_worse (a b : Status) :
    (worse a b).exitCode = max a.exitCode b.exitCode := by
  cases a <;> cases b <;> rfl

/-- The worst status of a list, and `ok` for none. -/
def worst (states : List Status) : Status := states.foldl worse ok

end Status

/-- The status of a measurement that violates a range of the severity. -/
def Severity.status : Severity → Status
  | warning => .warning
  | critical => .critical

end ThresholdCheck
