import CrashDiff.Proofs.Text.Numeral

/-!
# Marks between the parts of a text

A character that does not occur in the first part of a text ends that part, and one that does not
occur in the last part begins it. So parts can be told apart by marks that they do not hold, however
the other parts look.

Results:
1. `first_of_mark`, `last_of_mark`: the part in front of the first mark, and the part behind the
   last one.
2. `not_mem_numeral`: which characters are no part of a number.
-/

namespace CrashDiff.Text

variable {α : Type} {c : α} {xs ys xs' ys' : List α}

/-- The part in front of the first mark is determined, and so is the text behind it. -/
theorem first_of_mark (first : c ∉ xs) (first' : c ∉ xs') (same : xs ++ c :: ys = xs' ++ c :: ys') :
    xs = xs' ∧ ys = ys' := by
  rcases List.append_eq_append_iff.mp same with ⟨gap, front, behind⟩ | ⟨gap, front, behind⟩
  · cases gap with
    | nil =>
      rw [List.nil_append] at behind
      exact ⟨by simpa using front.symm, (List.cons_inj_right c).mp behind⟩
    | cons d gap =>
      rw [List.cons_append] at behind
      cases behind
      exact absurd (front ▸ List.mem_append_right xs List.mem_cons_self) first'
  · cases gap with
    | nil =>
      rw [List.nil_append] at behind
      exact ⟨by simpa using front, ((List.cons_inj_right c).mp behind).symm⟩
    | cons d gap =>
      rw [List.cons_append] at behind
      cases behind
      exact absurd (front ▸ List.mem_append_right xs' List.mem_cons_self) first

/-- The part behind the last mark is determined, and so is the text in front of it. -/
theorem last_of_mark (last : c ∉ ys) (last' : c ∉ ys') (same : xs ++ c :: ys = xs' ++ c :: ys') :
    xs = xs' ∧ ys = ys' := by
  have reversed : ys.reverse ++ c :: xs.reverse = ys'.reverse ++ c :: xs'.reverse := by
    have backwards := congrArg List.reverse same
    simpa using backwards
  obtain ⟨front, behind⟩ := first_of_mark (by simpa using last) (by simpa using last') reversed
  exact ⟨List.reverse_inj.mp behind, List.reverse_inj.mp front⟩

/-- A character other than a digit and the minus sign is no part of a number. -/
theorem not_mem_numeral {c : Char} (notDigit : c.isDigit = false) (notMinus : c ≠ '-') (n : Int) :
    c ∉ (numeral n).toList := by
  intro member
  rcases isDigit_or_minus_of_mem_numeral member with digit | minus
  · rw [notDigit] at digit
    cases digit
  · exact notMinus minus

end CrashDiff.Text
