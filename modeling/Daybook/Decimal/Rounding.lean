/-!
# Rounding of quotients

One rule serves all arithmetic of the library: a quotient goes to the nearest whole number, and a
tie goes to the even neighbour. An exact quotient is left alone (`divNearestEven_of_dvd`). Written numbers
that have too many places follow another rule: a tie goes up.
-/

namespace Daybook

/-- The quotient of `n` by `d` to the nearest natural number; a tie goes to the even neighbour. -/
def divNearestEven (n d : Nat) : Nat :=
  if 2 * (n % d) < d ∨ (2 * (n % d) = d ∧ n / d % 2 = 0) then n / d else n / d + 1

/-- A quotient without remainder is its own rounding. -/
theorem divNearestEven_of_dvd {n d : Nat} (hd : 0 < d) (h : d ∣ n) :
    divNearestEven n d = n / d := by
  simp [divNearestEven, Nat.mod_eq_zero_of_dvd h, hd]

@[simp] theorem divNearestEven_one (n : Nat) : divNearestEven n 1 = n := by
  simp [divNearestEven, Nat.mod_one]

/-- The quotient of `n` by `d` to the nearest natural number; a tie goes up. -/
def divNearestUp (n d : Nat) : Nat := if 2 * (n % d) < d then n / d else n / d + 1

end Daybook
