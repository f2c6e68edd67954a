import ThresholdCheck.Binary64.Rounding

/-!
# Binary64: the shortest decimal text of a number

A number is written with the fewest significant digits that read back as the same number; of
several such decimals the one nearest to it, and of two equally near ones the larger. The text is
positional, never with an exponent, and has a point only where digits follow it. The two
infinities are `inf` and `-inf`, and NaN is `NaN`.

The digits are found on coarser and finer decimal grids in turn: a grid that has a point reading
back as the number has one next to the number (`onGrid?`), and the first grid with such a point
gives the fewest digits (`shortest`).
-/

namespace ThresholdCheck.Binary64

/-! ## 1. The shortest decimal -/

/-- The multiple of `10 ^ exponent` beside the magnitude of `rank` that reads back as it. The
    nearer of the two neighbours is tried first, the upper one if they are equally near. -/
def onGrid? (rank : Nat) (exponent : Int) : Option Nat :=
  let num := if 0 ≤ exponent then units rank else units rank * tenTo (-exponent).toNat
  let den := if 0 ≤ exponent then twoTo 1074 * tenTo exponent.toNat else twoTo 1074
  let lower := num / den
  let readsBack (coefficient : Nat) : Bool :=
    ofDecimal false coefficient exponent == ofRank false rank
  let candidates := if den ≤ 2 * (num % den) then [lower + 1, lower] else [lower, lower + 1]
  candidates.find? readsBack

/-- The first of `grids` decimal grids, from `10 ^ exponent` on, that holds a decimal for `rank`. -/
def firstGrid? (rank : Nat) : (grids : Nat) → (exponent : Int) → Option (Nat × Int)
  | 0, _ => none
  | grids + 1, exponent =>
    match onGrid? rank exponent with
    | some coefficient => some (coefficient, exponent)
    | none => firstGrid? rank grids (exponent - 1)

/-- A power of ten above the magnitude of `rank`, from its count of binary digits. -/
def gridAbove (rank : Nat) : Int :=
  ((Nat.log2 (units rank) : Int) + 1 - 1074) * 30103 / 100000 + 1

/-- The shortest decimal for a finite rank. Twenty grids reach past the seventeen digits that
    always suffice; the exact value stands behind them. -/
def shortest (rank : Nat) : Nat × Int :=
  (firstGrid? rank 20 (gridAbove rank)).getD (units rank * fiveTo 1074, -1074)

/-! ## 2. Its text -/

/-- The digits of `coefficient * 10 ^ exponent`, with a point if the exponent is negative. -/
def positional (coefficient : Nat) (exponent : Int) : List Char :=
  let digits := Nat.toDigits 10 coefficient
  if 0 ≤ exponent then digits ++ List.replicate exponent.toNat '0'
  else
    let places := (-exponent).toNat
    let padded := List.replicate (places + 1 - digits.length) '0' ++ digits
    padded.take (padded.length - places) ++ '.' :: padded.drop (padded.length - places)

/-- The text of an unsigned magnitude. -/
def magnitudeChars (rank : Nat) : List Char :=
  if rank = topRank then ['i', 'n', 'f']
  else if rank = 0 then ['0']
  else
    let (coefficient, exponent) := shortest rank
    positional coefficient exponent

/-- The text of a number, as characters. -/
def toChars : Binary64 → List Char
  | nan => ['N', 'a', 'N']
  | signed true r => '-' :: magnitudeChars r.val
  | signed false r => magnitudeChars r.val

/-- The text of a number. -/
def text (x : Binary64) : String := String.ofList x.toChars

@[simp] theorem toList_text (x : Binary64) : x.text.toList = x.toChars := by simp [text]

instance : ToString Binary64 := ⟨text⟩

end ThresholdCheck.Binary64
