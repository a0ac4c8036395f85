import CrashDiff.Number.Power
import CrashDiff.Whole

/-!
# Numerals determine their numbers

The decimal text of a whole number is made of digits with at most a minus sign in front, and no two
numbers share one. A number can be written if it is below a bound, and a truth value always can.
-/

namespace CrashDiff.Text

theorem repr_injective {m n : Nat} (same : m.repr = n.repr) : m = n := by
  have values := congrArg (fun s => Nat.ofDigitChars 10 s.toList 0) same
  simpa using values

theorem isDigit_of_mem_repr {n : Nat} {c : Char} (member : c ∈ n.repr.toList) :
    c.isDigit = true := by
  rw [Nat.toList_repr] at member
  exact Nat.isDigit_of_mem_toDigits (by decide) (by decide) member

theorem isDigit_or_minus_of_mem_numeral {n : Int} {c : Char}
    (member : c ∈ (numeral n).toList) : c.isDigit = true ∨ c = '-' := by
  cases n with
  | ofNat n => exact Or.inl (isDigit_of_mem_repr member)
  | negSucc n =>
    simp only [numeral, String.toList_append, List.mem_append] at member
    cases member with
    | inl sign => exact Or.inr (by simpa using sign)
    | inr digit => exact Or.inl (isDigit_of_mem_repr digit)

theorem minus_not_mem_repr (n : Nat) : '-' ∉ n.repr.toList := by
  intro member
  exact absurd (isDigit_of_mem_repr member) (by decide)

theorem minus_mem_numeral_negSucc (n : Nat) : '-' ∈ (numeral (.negSucc n)).toList := by
  simp [numeral]

theorem numeral_injective {m n : Int} (same : numeral m = numeral n) : m = n := by
  cases m with
  | ofNat m =>
    cases n with
    | ofNat n => exact congrArg Int.ofNat (repr_injective same)
    | negSucc n =>
      have minus := minus_mem_numeral_negSucc n
      rw [← same] at minus
      exact absurd minus (minus_not_mem_repr m)
  | negSucc m =>
    cases n with
    | ofNat n =>
      have minus := minus_mem_numeral_negSucc m
      rw [same] at minus
      exact absurd minus (minus_not_mem_repr n)
    | negSucc n =>
      have digits : (m + 1).repr = (n + 1).repr := by
        have lists := congrArg String.toList same
        simp only [numeral, String.toList_append] at lists
        exact String.toList_inj.mp (List.append_cancel_left lists)
      have equal := repr_injective digits
      have predecessors : m = n := by omega
      rw [predecessors]

/-! ## Numbers that can be written -/

theorem length_toDigits_le_iff (n : Nat) {k : Nat} (positive : 0 < k) :
    (Nat.toDigits 10 n).length ≤ k ↔ n < Number.tenTo k :=
  Nat.length_toDigits_le_iff (by decide) positive

theorem isShort_iff (n : Int) :
    isShort n = true ↔ n.natAbs < Number.tenTo maxNumeralDigits := by
  rw [isShort, decide_eq_true_iff]
  exact length_toDigits_le_iff n.natAbs (by decide)

/-- One with as many zeros behind it as a number has digits at most. -/
theorem isShort_tenTo : isShort (Number.tenTo maxNumeralDigits) = false := by
  rw [← Bool.not_eq_true, isShort_iff, Int.natAbs_natCast]
  exact Nat.lt_irrefl (Number.tenTo maxNumeralDigits)

/-- What is nearer to zero than a number that can be written can be written, too. -/
theorem isShort_of_natAbs_le {m n : Int} (short : isShort n = true) (le : m.natAbs ≤ n.natAbs) :
    isShort m = true :=
  (isShort_iff m).mpr (Nat.lt_of_le_of_lt le ((isShort_iff n).mp short))

end CrashDiff.Text

namespace CrashDiff.Whole

theorem written_number {n : Int} (short : Text.isShort n = true) :
    written (.number n) = .ok (Text.numeral n) := by
  rw [written, if_pos short]

theorem written_of_long {n : Int} (long : Text.isShort n = false) :
    written (.number n) = .error .tooLong := by
  rw [written, long, if_neg Bool.false_ne_true]

/-- Numbers are written one by one, up to the first that is too long. -/
theorem mapM_written (ns : List Int) : (ns.map number).mapM written =
    if ns.all Text.isShort then .ok (ns.map Text.numeral) else .error .tooLong := by
  induction ns with
  | nil => rfl
  | cons n ns ih =>
    rw [List.map_cons, List.mapM_cons, ih, List.all_cons]
    cases short : Text.isShort n with
    | false => simp [written_of_long short, bind, Except.bind]
    | true =>
      rw [written_number short, Bool.true_and]
      cases ns.all Text.isShort <;> rfl

end CrashDiff.Whole
