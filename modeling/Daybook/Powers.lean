/-!
# Powers of ten and of two

The places of decimal and of binary numbers are counted by powers of their bases.
-/

namespace Daybook

/-- `10 ^ n`. -/
def tenPow (n : Nat) : Nat := Nat.pow 10 n

/-- `2 ^ n`. -/
def twoPow (n : Nat) : Nat := Nat.pow 2 n

@[simp] theorem tenPow_zero : tenPow 0 = 1 := rfl

theorem tenPow_pos (n : Nat) : 0 < tenPow n := Nat.pow_pos (by decide)

theorem tenPow_add (m n : Nat) : tenPow (m + n) = tenPow m * tenPow n := Nat.pow_add ..

end Daybook
