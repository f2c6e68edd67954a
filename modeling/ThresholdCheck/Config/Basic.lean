import ThresholdCheck.Range.Basic
import ThresholdCheck.Scale
import ThresholdCheck.Status

/-!
# Configurations

A configuration says how ranges are read, which severities each measurement needs a range of, and
what is declared of measurements by their names: unit, least and largest value, and slot.

A configuration is *consistent* if every declaration has a name that no other has, a slot that
counts from 1, and bounds in order (`Config.fault?`).
-/

namespace ThresholdCheck

/-- What is declared of the measurements of one name. -/
structure Declaration where
  name : String
  scale : Option Scale
  min : Option Binary64
  max : Option Binary64
  slot : Nat
deriving DecidableEq

/-- How a check is set up. -/
structure Config where
  mode : Mode
  warningRequired : Bool
  criticalRequired : Bool
  metrics : List Declaration
deriving DecidableEq

/-- Why a declaration is not consistent, by itself or with those before it. -/
inductive DeclarationFault where
  | nameless
  | repeated (name : String)
  | slotZero (name : String)
  | crossedBounds (name : String) (min max : Binary64)
deriving DecidableEq

/-- What the fault says to a reader. -/
def DeclarationFault.message : DeclarationFault → String
  | nameless => "metric declarations must have a non-empty name"
  | repeated name => "metric '" ++ name ++ "' is declared more than once"
  | slotZero name => "slot for metric '" ++ name ++ "' must be at least 1"
  | crossedBounds name min max =>
    "min (" ++ min.text ++ ") for metric '" ++ name ++ "' must not exceed max (" ++ max.text ++ ")"

namespace Declaration

/-- A name with nothing declared but the first slot. -/
def plain (name : String) : Declaration := ⟨name, none, none, none, 1⟩

/-- The least and the largest value, where both are given and the least is above the largest. -/
def crossed? (d : Declaration) : Option (Binary64 × Binary64) :=
  match d.min, d.max with
  | some min, some max => if max < min then some (min, max) else none
  | _, _ => none

/-- The first fault of a declaration that comes after others of the given names. -/
def fault? (d : Declaration) (earlier : List String) : Option DeclarationFault :=
  if d.name = "" then some .nameless
  else if d.name ∈ earlier then some (.repeated d.name)
  else if d.slot = 0 then some (.slotZero d.name)
  else d.crossed?.map fun (min, max) => .crossedBounds d.name min max

end Declaration

namespace Config

/-- The configuration of a check that is not set up otherwise. -/
def default : Config := ⟨.zeroFloor, false, false, []⟩

/-- The declaration for a name. -/
def metric? (c : Config) (name : String) : Option Declaration :=
  c.metrics.find? fun d => d.name == name

/-- The first fault of declarations that come after others of the given names. -/
def faultAmong? : (earlier : List String) → List Declaration → Option DeclarationFault
  | _, [] => none
  | earlier, d :: ds =>
    match d.fault? earlier with
    | some fault => some fault
    | none => faultAmong? (d.name :: earlier) ds

/-- What keeps a configuration from being consistent. -/
def fault? (c : Config) : Option DeclarationFault := faultAmong? [] c.metrics

/-- Whether each measurement needs a range of a severity. -/
def required (c : Config) : Severity → Bool
  | .warning => c.warningRequired
  | .critical => c.criticalRequired

end Config

end ThresholdCheck
