import ThresholdCheck.Fault
import ThresholdCheck.Text.Basic

/-!
# Measurements

A measurement is a named value that waits to be evaluated, with what else is known of it: the least
and the largest possible value, the unit as it was written, and the slot of the range it is tested
against.
-/

namespace ThresholdCheck

/-- A named value that waits to be evaluated. -/
structure Measurement where
  name : String
  value : Binary64
  min : Option Binary64
  max : Option Binary64
  scale : Option String
  slot : Nat
deriving DecidableEq

namespace Measurement

/-- A name and a value, tested at slot 1. -/
def plain (name : String) (value : Binary64) : Measurement := ⟨name, value, none, none, none, 1⟩

/-- A measurement whose value is given as text, with blanks around it or not. -/
def parse (name text : String) : Except Fault Measurement :=
  match Binary64.ofLiteral (Text.trim text.toList) with
  | .ok value =>
    if value.isNaN then .error (.notNumeric name text) else .ok (plain name value)
  | .error _ => .error (.notNumeric name text)

end Measurement

end ThresholdCheck
