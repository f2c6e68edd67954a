import ThresholdCheck.Range.Parsing

/-!
# Threshold sets: the ranges of one severity

The ranges of a severity are a list, and a measurement picks one by its slot, counted from 1
(`ThresholdSet.get?`). Ranges are appended from text, all or none (`ThresholdSet.append`), or set
one by one without leaving a gap (`ThresholdSet.setSlot`).
-/

namespace ThresholdCheck

/-- The ranges of one severity, and the mode in which they are read and written. -/
structure ThresholdSet where
  mode : Mode
  ranges : List Range
deriving DecidableEq

namespace ThresholdSet

/-- No ranges. -/
def empty (mode : Mode) : ThresholdSet := ⟨mode, []⟩

/-- The count of ranges. -/
def size (s : ThresholdSet) : Nat := s.ranges.length

/-- The range at a slot, counted from 1. -/
def get? (s : ThresholdSet) : (slot : Nat) → Option Range
  | 0 => none
  | i + 1 => s.ranges[i]?

/-- Appends the ranges of a list. -/
def append (s : ThresholdSet) (text : String) : Except Fault ThresholdSet :=
  (Range.parseList s.mode text).map fun more => { s with ranges := s.ranges ++ more }

/-- The set of the ranges of a list. -/
def parse (mode : Mode) (text : String) : Except Fault ThresholdSet := (empty mode).append text

/-- Sets the range at a slot, which is in use or the first that is free. -/
def setSlot (s : ThresholdSet) (slot : Nat) (bottom top : Binary64) (inverted : Bool) :
    Except Fault ThresholdSet :=
  if bottom.isNaN || top.isNaN then .error (.misuse (.nanBounds slot))
  else if slot = 0 ∨ s.size + 1 < slot then .error (.slotGap slot s.size)
  else
    let range := Range.ofBounds s.mode bottom top inverted
    if slot = s.size + 1 then .ok { s with ranges := s.ranges ++ [range] }
    else .ok { s with ranges := s.ranges.set (slot - 1) range }

@[simp] theorem mode_empty (mode : Mode) : (empty mode).mode = mode := rfl

@[simp] theorem get?_zero (s : ThresholdSet) : s.get? 0 = none := rfl

@[simp] theorem get?_succ (s : ThresholdSet) (i : Nat) : s.get? (i + 1) = s.ranges[i]? := rfl

end ThresholdSet

end ThresholdCheck
