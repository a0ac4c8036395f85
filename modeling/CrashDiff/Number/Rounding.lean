/-!
# Rounding a quotient

The whole number nearest to a quotient of natural numbers. A tie goes to the even neighbour.

Results:
1. `two_mul_sub_roundDiv_le`: the rounded quotient is at most half a unit away.
2. `roundDiv_even_of_tie`: a tie goes to the even neighbour.
-/

namespace CrashDiff.Number

/-- The whole number nearest to `n / d`, the even one of two equally near. -/
def roundDiv (n d : Nat) : Nat :=
  let q := n / d
  let twice := 2 * (n % d)
  if twice < d || (twice = d && q % 2 = 0) then q else q + 1

theorem roundDiv_cases {n d : Nat} :
    (roundDiv n d = n / d ∧ 2 * (n % d) ≤ d) ∨
      (roundDiv n d = n / d + 1 ∧ d ≤ 2 * (n % d)) := by
  simp only [roundDiv]
  split <;> rename_i h <;> simp at h <;> omega

/-- The rounded quotient is at most half a unit away from the quotient. -/
theorem two_mul_sub_roundDiv_le {n d : Nat} (pos : 0 < d) :
    2 * n ≤ 2 * (d * roundDiv n d) + d ∧ 2 * (d * roundDiv n d) ≤ 2 * n + d := by
  have split := Nat.div_add_mod n d
  have small := Nat.mod_lt n pos
  rcases roundDiv_cases (n := n) (d := d) with ⟨value, side⟩ | ⟨value, side⟩
  · rw [value]; omega
  · rw [value, Nat.mul_add, Nat.mul_one]; omega

/-- A quotient half way between two whole numbers goes to the even one. -/
theorem roundDiv_even_of_tie {n d : Nat} (tie : 2 * (n % d) = d) :
    roundDiv n d % 2 = 0 := by
  simp only [roundDiv, tie]
  split <;> rename_i h <;> simp at h <;> omega

end CrashDiff.Number
