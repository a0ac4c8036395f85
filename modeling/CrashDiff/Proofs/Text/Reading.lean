import CrashDiff.Proofs.Program.Number
import Mathlib.Data.List.Basic

/-!
# Reading numerals

The liberal reader of whole numbers reads the decimal text of a number as that number, as long as
there are not more digits than it takes.

Results:
1. `readNumeral?_numeral`: a numeral is read back.
-/

namespace CrashDiff.Text

variable {c : Char} {cs : List Char}

/-! ## ASCII digits among all digits -/

theorem digitValue?_ascii (digit : c.isDigit = true) : digitValue? c = some (c.toNat - 48) := by
  obtain ⟨low, high⟩ := Source.isAsciiDigit_iff.mp digit
  have first : (48 ≤ c.toNat && decide (c.toNat < 48 + 10)) = true := by
    simp only [Bool.and_eq_true, decide_eq_true_eq]
    omega
  rw [digitValue?, zeroDigits, List.find?_cons, first]
  rfl

theorem isDigit_ascii (digit : c.isDigit = true) : isDigit c = true := by
  rw [isDigit, digitValue?_ascii digit]
  rfl

/-- Neither a digit nor a minus sign is a blank. -/
theorem isNumeralBlank_eq_false (known : c.isDigit = true ∨ c = '-') :
    isNumeralBlank c = false := by
  rcases known with digit | rfl
  · obtain ⟨low, high⟩ := Source.isAsciiDigit_iff.mp digit
    have blank : isBlank c = false := by
      simp only [isBlank, Bool.or_eq_false_iff, Bool.and_eq_false_iff, decide_eq_false_iff_not,
        beq_eq_false_iff_ne]
      omega
    rw [isNumeralBlank, blank, Bool.false_and]
  · decide

/-! ## Runs of digits -/

/-- Nothing is trimmed from a text without blanks. -/
theorem trimBy_eq_self {p : Char → Bool} (none : ∀ c ∈ cs, p c = false) : trimBy p cs = cs := by
  have start (l : List Char) (all : ∀ c ∈ l, p c = false) : l.dropWhile p = l := by
    cases l with
    | nil => rfl
    | cons c l =>
      rw [List.dropWhile_cons_of_neg (by simp [all c List.mem_cons_self])]
  rw [trimBy, start cs none, start cs.reverse (by simpa using none), List.reverse_reverse]

/-- A run of digits is taken as it is. -/
theorem digitRun?_of_digits (some : cs ≠ []) (digits : ∀ c ∈ cs, isDigit c = true) :
    digitRun? cs = .some cs := by
  fun_induction digitRun? cs with
  | case1 => exact absurd rfl some
  | case2 c digit => rfl
  | case3 c other => exact absurd (digits c List.mem_cons_self) other
  | case4 c cs digit ih => exact absurd (digits '_' (by simp)) (by decide)
  | case5 c cs other => exact absurd (digits c List.mem_cons_self) other
  | case6 c cs alone _ digit ih =>
    rw [ih alone fun d member => digits d (List.mem_cons_of_mem c member)]
    rfl
  | case7 c cs _ _ other => exact absurd (digits c List.mem_cons_self) other

/-- The digits of a number are a run. -/
theorem digitRun?_toDigits (n : Nat) : digitRun? (Nat.toDigits 10 n) = some (Nat.toDigits 10 n) :=
  digitRun?_of_digits Nat.toDigits_ne_nil fun c member =>
    isDigit_ascii (Source.digits_toDigits n c member)

/-- They denote the number. -/
theorem valueOfDigits_toDigits (n : Nat) : valueOfDigits (Nat.toDigits 10 n) = n := by
  have same : valueOfDigits (Nat.toDigits 10 n) = Nat.ofDigitChars 10 (Nat.toDigits 10 n) 0 := by
    refine List.foldl_ext _ _ 0 fun value c member => ?_
    rw [digitValue?_ascii (Source.digits_toDigits n c member)]
    rfl
  rw [same, Nat.ofDigitChars_ten_toDigits]

/-! ## Numerals -/

/-- Digits have no sign in front. -/
theorem splitSign_toDigits (n : Nat) :
    splitSign (Nat.toDigits 10 n) = (false, Nat.toDigits 10 n) := by
  have digits := Source.digits_toDigits n
  unfold splitSign
  split
  · rename_i shape
    exact absurd (digits '-' (shape ▸ List.mem_cons_self)) (by decide)
  · rename_i shape
    exact absurd (digits '+' (shape ▸ List.mem_cons_self)) (by decide)
  · rfl

/-- A numeral is read back, if it has no more digits than may be read. -/
theorem readNumeral?_numeral {n : Int} (short : n.natAbs.repr.length ≤ maxNumeralDigits) :
    readNumeral? (numeral n) = some n := by
  have blankless : ∀ c ∈ (numeral n).toList, isNumeralBlank c = false :=
    fun c member => isNumeralBlank_eq_false (isDigit_or_minus_of_mem_numeral member)
  have fits : (Nat.toDigits 10 n.natAbs).length ≤ maxNumeralDigits := by
    rwa [← String.length_toList, Nat.toList_repr] at short
  rw [readNumeral?, trimBy_eq_self blankless]
  cases n with
  | ofNat n =>
    rw [Source.toList_numeral_ofNat, splitSign_toDigits]
    dsimp only
    rw [digitRun?_toDigits]
    dsimp only
    rw [valueOfDigits_toDigits]
    exact if_pos fits
  | negSucc n =>
    have minus (cs : List Char) : splitSign ('-' :: cs) = (true, cs) := rfl
    rw [Source.toList_numeral_negSucc, minus]
    dsimp only
    rw [digitRun?_toDigits]
    dsimp only
    rw [valueOfDigits_toDigits]
    exact if_pos fits

end CrashDiff.Text
