import CrashDiff.Number.Double

/-!
# Whole numbers in the range of the format

A number below two to the power of 1023 has an exponent that leaves room for the step up that
rounding may take, so the format holds a number next to it.

Results:
1. `exists_ofRatio`: such a number is rounded to a finite one.
2. `exists_ofInt?`: so the format has one next to it.
-/

namespace CrashDiff.Double

variable {n : Nat}

theorem log2_lt_of_lt_twoTo {k : Nat} (some : n ≠ 0) (small : n < Number.twoTo k) : n.log2 < k :=
  (Nat.log2_lt some).mpr small

/-- The exponent of a whole number is that of its last bit within the precision, or the least. -/
theorem exponentOf_le (n : Nat) : exponentOf n 1 ≤ max minExponent ((n.log2 : Int) - 52) := by
  have one : Nat.log2 1 = 0 := by decide
  unfold exponentOf
  simp only [one]
  split <;> omega

theorem exists_ofRatio (small : n < Number.twoTo 1023) (negative : Bool) :
    ∃ mantissa exponent, ofRatio negative n 1 = .finite negative mantissa exponent := by
  by_cases zero : n = 0
  · exact ⟨0, minExponent, by rw [ofRatio, if_pos zero]⟩
  · have bits : n.log2 < 1023 := log2_lt_of_lt_twoTo zero small
    have room := exponentOf_le n
    have steps : ∀ e : Int, e ≤ exponentOf n 1 + 1 → e ≤ maxExponent := by
      intro e close
      simp only [minExponent, maxExponent] at room ⊢
      omega
    simp only [ofRatio, if_neg zero]
    split
    · rw [if_pos (steps _ (by omega))]
      exact ⟨_, _, rfl⟩
    · rw [if_pos (steps _ (by omega))]
      exact ⟨_, _, rfl⟩

/-- The format holds a number next to a whole number below two to the power of 1023. -/
theorem exists_ofInt? {n : Int} (small : n.natAbs < Number.twoTo 1023) :
    ∃ x, ofInt? n = some x := by
  obtain ⟨mantissa, exponent, rounded⟩ := exists_ofRatio small (decide (n < 0))
  exact ⟨_, by rw [ofInt?, rounded]⟩

end CrashDiff.Double
