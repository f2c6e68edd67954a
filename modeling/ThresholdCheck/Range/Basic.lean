import ThresholdCheck.Binary64.Decimal

/-!
# Ranges: bounds, polarity and text

* `Mode` says what an omitted start of a range means;
* `Range` is a pair of bounds with a polarity and the text it came from. The bounds need not be in
  order;
* `Range.violatedBy` is the test: a plain range is violated outside its bounds, an inverted one
  inside, both ends included;
* `Range.ofBounds` makes a range of bounds and writes its text, without the start where the mode
  supplies it.
-/

namespace ThresholdCheck

/-! ## 1. Modes -/

/-- What an omitted start means. -/
inductive Mode where
  /-- zero -/
  | zeroFloor
  /-- negative infinity -/
  | simpleRange
deriving DecidableEq

namespace Mode

/-- The name of the mode. -/
def name : Mode → String
  | zeroFloor => "zero-floor"
  | simpleRange => "simple-range"

/-- The bottom of a range without a start. -/
def defaultBottom : Mode → Binary64
  | zeroFloor => .zero
  | simpleRange => .negInfinity

/-- The mode with a name. -/
def ofName? (name : String) : Option Mode :=
  [zeroFloor, simpleRange].find? fun m => m.name == name

instance : Inhabited Mode := ⟨zeroFloor⟩

end Mode

/-! ## 2. Ranges -/

/-- One range: two bounds, a polarity, and the text that it is known by. -/
structure Range where
  bottom : Binary64
  top : Binary64
  inverted : Bool
  raw : String
deriving DecidableEq

namespace Range

/-- Whether a value violates the range. -/
def violatedBy (r : Range) (value : Binary64) : Bool :=
  let inside := decide (r.bottom ≤ value) && decide (value ≤ r.top)
  if r.inverted then inside else !inside

/-- Whether two ranges are the same, their bounds compared as numbers. -/
def equals (r s : Range) : Bool :=
  r.bottom.equals s.bottom && r.top.equals s.top && r.inverted == s.inverted && r.raw == s.raw

/-! ## 3. Writing a range -/

/-- The text of bounds in range syntax. The start is left out where it is the default of the mode,
    unless the end is open too. -/
def write (mode : Mode) (bottom top : Binary64) (inverted : Bool) : String :=
  let sign := if inverted then "@" else ""
  if bottom.equals mode.defaultBottom && !top.equals .infinity then sign ++ top.text
  else
    let start := if bottom.equals .negInfinity then "~" else bottom.text
    let stop := if top.equals .infinity then "" else top.text
    sign ++ start ++ ":" ++ stop

/-- The range of two bounds. -/
def ofBounds (mode : Mode) (bottom top : Binary64) (inverted : Bool) : Range :=
  ⟨bottom, top, inverted, write mode bottom top inverted⟩

end Range

end ThresholdCheck
