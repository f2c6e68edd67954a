import ThresholdCheck.Config.Basic
import ThresholdCheck.Measurement

/-!
# Arguments: measurements on the command line

A measurement is given as `NAME=VALUE[UNIT]`. The name ends at the first `=`, and blanks around name
and value do not count. The unit is all that follows the last character that a number may have
(`splitUnit`).

* `Argument.parse` reads an argument; the configuration has no part in it.
* `Argument.measurement` adds what is declared for the name. A unit that was given wins over the
  declared one.
-/

namespace ThresholdCheck

/-- A measurement as it was given. -/
structure Argument where
  name : String
  value : Binary64
  unit : String
deriving DecidableEq

namespace Argument

/-! ## 1. Reading -/

/-- The characters that a number may have. -/
def isNumberChar (c : Char) : Bool :=
  c.isDigit || c = '.' || c = '+' || c = '-' || c = 'e' || c = 'E'

/-- A number and the unit after it. -/
def splitUnit (text : List Char) : List Char × List Char :=
  ((text.reverse.dropWhile fun c => !isNumberChar c).reverse,
    (text.reverse.takeWhile fun c => !isNumberChar c).reverse)

/-- Nothing is lost between number and unit. -/
theorem splitUnit_append (text : List Char) : (splitUnit text).1 ++ (splitUnit text).2 = text := by
  simp only [splitUnit, ← List.reverse_append, List.takeWhile_append_dropWhile,
    List.reverse_reverse]

/-- The argument of a name and a text without blanks around it. -/
def ofParts (name : String) (text : List Char) : Except Fault Argument :=
  let (number, unit) := splitUnit text
  match Measurement.parse name (String.ofList number) with
  | .ok m => .ok ⟨m.name, m.value, String.ofList unit⟩
  | .error _ => .error (.notNumeric name (String.ofList text))

/-- The argument a text stands for. -/
def parse (text : String) : Except Fault Argument :=
  match Text.cut '=' text.toList with
  | none => .error (.misuse (.notAMeasurement text))
  | some (name, value) =>
    let name := Text.trim name
    if name = [] then .error (.misuse (.namelessMeasurement text))
    else ofParts (String.ofList name) (Text.trim value)

/-! ## 2. What is declared -/

/-- The unit in force: the one that was given, or else the one that is declared. -/
def scale (a : Argument) (declared : Option Scale) : Option String :=
  if a.unit = "" then declared.map Scale.token else some a.unit

/-- The measurement of an argument under a configuration. -/
def measurement (a : Argument) (config : Config) : Measurement :=
  let d := (config.metric? a.name).getD (Declaration.plain a.name)
  { name := a.name, value := a.value, min := d.min, max := d.max, scale := a.scale d.scale,
    slot := d.slot }

end Argument

end ThresholdCheck
