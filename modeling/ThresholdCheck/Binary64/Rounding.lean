import ThresholdCheck.Binary64.Basic

/-!
# Binary64: magnitudes in units, and rounding to the nearest

All finite magnitudes are multiples of the smallest positive one, `2 ^ (-1074)`, the *unit*.

* `units r` is the magnitude of rank `r`, counted in units;
* `nearestRank num den` is the rank nearest to `num / den` units; halfway between two ranks, the
  even one is taken;
* `ofDecimal` is the number nearest to `coefficient * 10 ^ exponent`.
-/

namespace ThresholdCheck.Binary64

/-! ## 1. Units -/

/-- The magnitude of a finite rank in units of `2 ^ (-1074)`. -/
def units (rank : Nat) : Nat :=
  let binade := rank / twoTo 52 - 1
  (rank - binade * twoTo 52) * twoTo binade

/-! ## 2. Rounding -/

/-- The quotient to the nearest integer; of two equally near ones the even one. -/
def roundHalfEven (num den : Nat) : Nat :=
  let q := num / den
  let twice := 2 * (num % den)
  if twice < den then q else if den < twice then q + 1 else q + q % 2

/-- The rank nearest to `num / den` units. The binade keeps 53 significant bits of the quotient,
    or all of it where it has fewer; a carry out of the 53 bits is the first rank of the next
    binade. -/
def nearestRank (num den : Nat) : Nat :=
  let binade := Nat.log2 (num / den) - 52
  binade * twoTo 52 + roundHalfEven num (den * twoTo binade)

/-- The number nearest to `coefficient * 10 ^ exponent`. An exponent above 400 is past every
    finite magnitude, and one that leaves less than `10 ^ (-400)` is below half a unit; neither
    power is formed. -/
def ofDecimal (negative : Bool) (coefficient : Nat) (exponent : Int) : Binary64 :=
  if coefficient = 0 then ofRank negative 0
  else if 400 < exponent then ofRank negative topRank
  else if exponent + (Nat.log2 coefficient + 401 : Nat) < 0 then ofRank negative 0
  else if 0 ≤ exponent then
    ofRank negative (nearestRank (coefficient * tenTo exponent.toNat * twoTo 1074) 1)
  else
    ofRank negative (nearestRank (coefficient * twoTo 1074) (tenTo (-exponent).toNat))

end ThresholdCheck.Binary64
