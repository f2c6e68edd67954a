/-!
# Binary64: powers of two, five and ten

The magnitudes of numbers are powers of two apart, and the places of their texts powers of ten; a
power of five is what tells the one from the other.
-/

namespace ThresholdCheck.Binary64

/-- A power of two. -/
def twoTo (n : Nat) : Nat := Nat.pow 2 n

/-- A power of five. -/
def fiveTo (n : Nat) : Nat := Nat.pow 5 n

/-- A power of ten. -/
def tenTo (n : Nat) : Nat := Nat.pow 10 n

@[simp] theorem tenTo_zero : tenTo 0 = 1 := rfl

theorem twoTo_succ (n : Nat) : twoTo (n + 1) = twoTo n * 2 := rfl


theorem twoTo_pos (n : Nat) : 0 < twoTo n := Nat.pow_pos (by decide)

theorem fiveTo_pos (n : Nat) : 0 < fiveTo n := Nat.pow_pos (by decide)

theorem tenTo_pos (n : Nat) : 0 < tenTo n := Nat.pow_pos (by decide)

theorem fiveTo_mul_twoTo (n : Nat) : fiveTo n * twoTo n = tenTo n := (Nat.mul_pow 5 2 n).symm

end ThresholdCheck.Binary64
