import ThresholdCheck.Binary64.Power

/-!
# Binary64: the numbers of a check

A measured value and a bound of a range are IEEE 754 binary64 numbers. This file fixes the carrier
and its order:

* a number is `nan`, or a sign with the *rank* of its magnitude. The magnitudes in increasing
  order are numbered from `0` (zero) to `topRank` (infinity), so that comparing magnitudes is
  comparing ranks (`signed`);
* `key` maps the two zeros to one integer and every other number to its own, and the order of the
  numbers is the order of the keys; `nan` has no key and is comparable with nothing;
* equality of values (`=`) tells the two zeros apart, equality as numbers (`equals`) does not.
-/

namespace ThresholdCheck

/-- The rank of infinity: 2047 binades of `2 ^ 52` magnitudes each lie below it. -/
def Binary64.topRank : Nat := 2047 * Binary64.twoTo 52

/-- An IEEE 754 binary64 number; all NaNs are one. -/
inductive Binary64 where
  | nan
  | signed (negative : Bool) (rank : Fin (Binary64.topRank + 1))
deriving DecidableEq

namespace Binary64

/-! ## 1. Some numbers -/

/-- The number of a sign and a rank; a rank above that of infinity is infinity. -/
def ofRank (negative : Bool) (rank : Nat) : Binary64 :=
  if h : rank ≤ topRank then signed negative ⟨rank, Nat.lt_succ_of_le h⟩
  else signed negative ⟨topRank, Nat.lt_succ_self _⟩

/-- Positive zero. -/
def zero : Binary64 := ofRank false 0

/-- Positive infinity. -/
def infinity : Binary64 := ofRank false topRank

/-- Negative infinity. -/
def negInfinity : Binary64 := ofRank true topRank

/-- Whether the value is not a number. -/
def isNaN : Binary64 → Bool
  | nan => true
  | signed _ _ => false

@[simp] theorem isNaN_nan : isNaN nan = true := rfl

@[simp] theorem isNaN_signed (n r) : isNaN (signed n r) = false := rfl

theorem isNaN_iff {x : Binary64} : x.isNaN = true ↔ x = nan := by
  cases x <;> simp

/-! ## 2. The order -/

/-- The place of a number on the number line; the two zeros share theirs. -/
def key : Binary64 → Option Int
  | nan => none
  | signed true r => some (-(r.val : Int))
  | signed false r => some (r.val : Int)

@[simp] theorem key_nan : key nan = none := rfl

@[simp] theorem key_signed_true (r) : key (signed true r) = some (-(r.val : Int)) := rfl

@[simp] theorem key_signed_false (r) : key (signed false r) = some (r.val : Int) := rfl

theorem key_eq_none_iff {x : Binary64} : x.key = none ↔ x = nan := by
  rcases x with _ | ⟨_ | _, r⟩ <;> simp

/-- `x` is below `y` or at its place. -/
def le (x y : Binary64) : Bool :=
  match x.key, y.key with
  | some a, some b => decide (a ≤ b)
  | _, _ => false

/-- `x` is strictly below `y`. -/
def lt (x y : Binary64) : Bool :=
  match x.key, y.key with
  | some a, some b => decide (a < b)
  | _, _ => false

/-- `x` and `y` are one number: equal keys, and no NaN. -/
def equals (x y : Binary64) : Bool :=
  match x.key, y.key with
  | some a, some b => decide (a = b)
  | _, _ => false

instance : LE Binary64 := ⟨fun x y => x.le y = true⟩

instance : LT Binary64 := ⟨fun x y => x.lt y = true⟩

instance (x y : Binary64) : Decidable (x ≤ y) := inferInstanceAs (Decidable (x.le y = true))

instance (x y : Binary64) : Decidable (x < y) := inferInstanceAs (Decidable (x.lt y = true))

/-- The order of the numbers is the order of their keys. -/
theorem le_iff {x y : Binary64} : x ≤ y ↔ ∃ a b, x.key = some a ∧ y.key = some b ∧ a ≤ b := by
  show x.le y = true ↔ _
  unfold le
  cases x.key <;> cases y.key <;> simp

/-- The strict order of the numbers is the strict order of their keys. -/
theorem lt_iff {x y : Binary64} : x < y ↔ ∃ a b, x.key = some a ∧ y.key = some b ∧ a < b := by
  show x.lt y = true ↔ _
  unfold lt
  cases x.key <;> cases y.key <;> simp

/-- Numerical equality is equality of keys. -/
theorem equals_iff {x y : Binary64} : x.equals y = true ↔ ∃ a, x.key = some a ∧ y.key = some a := by
  unfold equals
  cases x.key <;> cases y.key <;> simp [eq_comm]

end Binary64

end ThresholdCheck
