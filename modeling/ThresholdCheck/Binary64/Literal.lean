import ThresholdCheck.Binary64.Rounding

/-!
# Binary64: reading a number from its literal

A literal is an optional sign and then either a decimal or a word:

* a decimal is digits, with at most one point among or beside them and at least one digit, and
  optionally `e` or `E`, an optional sign and at least one digit;
* a word is `inf`, `infinity` or `nan`, in letters of either case.

A decimal reads as the nearest binary64 number (`Binary64.ofDecimal`). Blanks are no part of a
literal.
-/

namespace ThresholdCheck.Binary64

/-! ## 1. Causes -/

/-- Why a text is no number literal. -/
inductive LiteralFault where
  | empty
  | malformed
deriving DecidableEq

/-- What the fault says to a reader. -/
def LiteralFault.message : LiteralFault → String
  | .empty => "cannot parse float from empty string"
  | .malformed => "invalid float literal"

/-! ## 2. Pieces of a literal -/

/-- The sign at the head of a text (`true` for minus) and the rest. -/
def takeSign : List Char → Bool × List Char
  | '-' :: cs => (true, cs)
  | '+' :: cs => (false, cs)
  | cs => (false, cs)

/-- The value of a row of decimal digits. -/
def digitsValue (cs : List Char) : Nat := Nat.ofDigitChars 10 cs 0

/-- The exponent part after its `e`: an optional sign and at least one digit, to the end. -/
def exponentOf? (cs : List Char) : Option Int :=
  let (negative, digits) := takeSign cs
  if digits.isEmpty || !digits.all Char.isDigit then none
  else some (if negative then -(digitsValue digits : Int) else digitsValue digits)

/-- An unsigned decimal as coefficient and exponent of ten. -/
def decimalOf? (cs : List Char) : Option (Nat × Int) :=
  let whole := cs.takeWhile Char.isDigit
  let afterWhole := cs.dropWhile Char.isDigit
  let (fraction, rest) :=
    match afterWhole with
    | '.' :: r => (r.takeWhile Char.isDigit, r.dropWhile Char.isDigit)
    | r => ([], r)
  if whole.isEmpty && fraction.isEmpty then none
  else
    let coefficient := digitsValue (whole ++ fraction)
    match rest with
    | [] => some (coefficient, -(fraction.length : Int))
    | c :: r =>
      if c = 'e' || c = 'E' then
        (exponentOf? r).map fun e => (coefficient, e - (fraction.length : Int))
      else none

/-- An unsigned word: infinity or not a number. -/
def wordOf? (negative : Bool) (cs : List Char) : Option Binary64 :=
  let word := cs.map Char.toLower
  if word = ['i', 'n', 'f'] || word = ['i', 'n', 'f', 'i', 'n', 'i', 't', 'y'] then
    some (ofRank negative topRank)
  else if word = ['n', 'a', 'n'] then some nan
  else none

/-! ## 3. The whole literal -/

/-- The number a literal stands for. -/
def ofLiteral (cs : List Char) : Except LiteralFault Binary64 :=
  if cs.isEmpty then .error .empty
  else
    let (negative, body) := takeSign cs
    match decimalOf? body with
    | some (coefficient, exponent) => .ok (ofDecimal negative coefficient exponent)
    | none =>
      match wordOf? negative body with
      | some x => .ok x
      | none => .error .malformed

end ThresholdCheck.Binary64
