import ThresholdCheck.Binary64.Decimal
import ThresholdCheck.Scale
import ThresholdCheck.Status

/-!
# Records: evaluated measurements

A record is what an evaluated measurement leaves: its data, the state it is in, and the texts of
the ranges it violated. It is written as one token of performance data,
`name=value[scale];warning;critical;min;max`, with nothing where a field is absent (`Record.token`).
-/

namespace ThresholdCheck

/-- An evaluated measurement. -/
structure Record where
  name : String
  value : Binary64
  min : Option Binary64
  max : Option Binary64
  scale : Option Scale
  slot : Nat
  state : Status
  warning : Option String
  critical : Option String
deriving DecidableEq

namespace Record

/-- The text of a field that may be absent. -/
def field (x : Option Binary64) : String := (x.map Binary64.text).getD ""

/-- The record as a token of performance data. -/
def token (r : Record) : String :=
  r.name ++ "=" ++ r.value.text ++ (r.scale.map Scale.token).getD "" ++ ";" ++
    r.warning.getD "" ++ ";" ++ r.critical.getD "" ++ ";" ++ field r.min ++ ";" ++ field r.max

end Record

end ThresholdCheck
