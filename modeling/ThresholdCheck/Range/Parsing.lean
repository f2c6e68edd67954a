import ThresholdCheck.Fault
import ThresholdCheck.Range.Basic
import ThresholdCheck.Text.Basic

/-!
# Reading ranges

A range is written `start:end`, or `end` alone, with `@` in front to invert it:

* an omitted start is the default bottom of the mode, `~` is negative infinity;
* an omitted end after the colon is infinity;
* all other bounds are number literals, infinities among them, but not NaN.

Blanks around a range do not count. A list of ranges has a comma between two of them and is read
as a whole or not at all (`Range.parseList`).
-/

namespace ThresholdCheck.Range

open Text

/-! ## 1. Bounds -/

/-- The bound that a literal stands for. -/
def readBound (cs : List Char) : Except RangeFault Binary64 :=
  match Binary64.ofLiteral cs with
  | .error cause => .error (.notANumber (String.ofList cs) cause)
  | .ok x => if x.isNaN then .error .nanBound else .ok x

/-- The bound before the colon. -/
def readStart (mode : Mode) (cs : List Char) : Except RangeFault Binary64 :=
  if cs = [] then .ok mode.defaultBottom
  else if cs = ['~'] then .ok .negInfinity
  else readBound cs

/-- The bound after the colon. -/
def readEnd (cs : List Char) : Except RangeFault Binary64 :=
  if cs = [] then .ok .infinity else readBound cs

/-- Both bounds. Of two faults the one of the start is told. -/
def readBounds (mode : Mode) (body : List Char) : Except RangeFault (Binary64 × Binary64) :=
  if body = [] then .error .empty
  else
    match cut ':' body with
    | some (start, stop) => do
      let bottom ← readStart mode start
      let top ← readEnd stop
      return (bottom, top)
    | none => do
      let top ← readBound body
      return (mode.defaultBottom, top)

/-! ## 2. One range -/

/-- The inverting sign at the head of a range, and the rest. -/
def takeInversion : List Char → Bool × List Char
  | '@' :: cs => (true, cs)
  | cs => (false, cs)

/-- The range that a text without blanks around it stands for. -/
def readTrimmed (mode : Mode) (cs : List Char) : Except RangeFault Range :=
  let (inverted, body) := takeInversion cs
  (readBounds mode body).map fun (bottom, top) => ⟨bottom, top, inverted, String.ofList cs⟩

/-- The range that a text stands for. -/
def parse (mode : Mode) (text : String) : Except Fault Range :=
  (readTrimmed mode (trim text.toList)).mapError (Fault.range text)

/-! ## 3. Lists of ranges -/

/-- The texts between the commas. -/
def segments (text : String) : List String := (text.toList.splitOn ',').map String.ofList

/-- The range in one segment of the list `whole`. An empty segment is a fault of the list. -/
def parseSegment (mode : Mode) (whole segment : String) : Except Fault Range :=
  if isBlankText segment.toList then .error (.range whole .emptySegment) else parse mode segment

/-- The ranges of a list in order. The first fault is told. -/
def parseList (mode : Mode) (text : String) : Except Fault (List Range) :=
  if isBlankText text.toList then .error (.range text .empty)
  else (segments text).mapM (parseSegment mode text)

end ThresholdCheck.Range
