import CrashDiff.Program.SourceReader
import CrashDiff.Proofs.Text.Numeral

/-!
# Reading numbers back

The number reader of source texts accepts the decimal text of a whole number and nothing else, and
takes as many digits as there are. So what it reads behind a text that does not begin with a digit
is exactly what was written.

Results:
1. `toDigits_natOfDigits`: the digits of a number, without leading zeros, are those it is written
   with.
2. `number?_eq_some_iff`: what the number reader accepts.
-/

namespace CrashDiff.Source

open Text

variable {c : Char} {cs ds rest : List Char} {n : Nat}

/-! ## Digits -/

theorem isAsciiDigit_iff : isAsciiDigit c = true ↔ 48 ≤ c.toNat ∧ c.toNat ≤ 57 := by
  rw [isAsciiDigit, Bool.and_eq_true, decide_eq_true_iff, decide_eq_true_iff]
  exact Iff.rfl

theorem digitChar_value (digit : isAsciiDigit c = true) : (c.toNat - 48).digitChar = c := by
  obtain ⟨low, high⟩ := isAsciiDigit_iff.mp digit
  apply Char.toNat_inj.mp
  rw [Nat.toNat_digitChar_of_lt_ten (by omega)]
  omega

/-- More digits behind the text of a positive number make the text of a number again. -/
theorem toDigits_append_digits (positive : 0 < n)
    (digits : ∀ c ∈ cs, isAsciiDigit c = true) :
    Nat.toDigits 10 n ++ cs =
      Nat.toDigits 10 (cs.foldl (fun n c => 10 * n + (c.toNat - 48)) n) := by
  induction cs generalizing n with
  | nil => rw [List.append_nil, List.foldl_nil]
  | cons c cs ih =>
    obtain ⟨digit, others⟩ := List.forall_mem_cons.mp digits
    have below : c.toNat - 48 < 10 := by
      have bounds := isAsciiDigit_iff.mp digit
      omega
    have one := Nat.toDigits_append_toDigits (by decide) positive below
    rw [Nat.toDigits_of_lt_base below, digitChar_value digit] at one
    rw [List.foldl_cons, ← ih (by omega) others, ← one, List.append_assoc, List.singleton_append]

/-- Digits without a superfluous leading zero are the text of their value. -/
theorem toDigits_natOfDigits (nonempty : ds ≠ []) (digits : ∀ c ∈ ds, isAsciiDigit c = true)
    (leading : ds.head? = some '0' → ds.length = 1) :
    Nat.toDigits 10 (natOfDigits ds) = ds := by
  cases ds with
  | nil => exact absurd rfl nonempty
  | cons c cs =>
    obtain ⟨digit, others⟩ := List.forall_mem_cons.mp digits
    have bounds := isAsciiDigit_iff.mp digit
    have first : Nat.toDigits 10 (c.toNat - 48) = [c] := by
      rw [Nat.toDigits_of_lt_base (by omega), digitChar_value digit]
    by_cases zero : c = '0'
    · have alone : cs = [] := by simpa using leading (by rw [zero, List.head?_cons])
      subst alone zero
      rfl
    · have positive : 0 < c.toNat - 48 := by
        have other : c.toNat ≠ 48 := fun same => zero (Char.toNat_inj.mp same)
        omega
      have all := toDigits_append_digits positive others
      rw [first] at all
      simpa [natOfDigits] using all.symm

/-- Only zero is written with a zero in front. -/
theorem eq_zero_of_leading_zero (leading : (Nat.toDigits 10 n).head? = some '0') : n = 0 := by
  induction n using Nat.strongRecOn with
  | ind n ih =>
    rw [Nat.toDigits_eq_if (by decide)] at leading
    split at leading
    · simpa using leading
    · rename_i large
      obtain ⟨c, cs, digits⟩ := List.exists_cons_of_ne_nil (Nat.toDigits_ne_nil (n := n / 10))
      rw [digits] at leading
      have fewer := ih (n / 10) (by omega) (by rw [digits]; exact leading)
      omega

/-- A number is written with ASCII digits. -/
theorem digits_toDigits (n : Nat) : ∀ c ∈ Nat.toDigits 10 n, isAsciiDigit c = true :=
  fun _ member => Nat.isDigit_of_mem_toDigits (by decide) (by decide) member

theorem natOfDigits_toDigits (n : Nat) : natOfDigits (Nat.toDigits 10 n) = n :=
  Nat.ofDigitChars_ten_toDigits

/-! ## Numbers -/

/-- The text does not begin with a digit. -/
def NoDigit (cs : List Char) : Prop :=
  ∀ c ∈ cs.head?, isAsciiDigit c = false

theorem number?_minus (cs : List Char) :
    number? ('-' :: cs) =
      if cs.takeWhile isAsciiDigit = [] ∨ (cs.takeWhile isAsciiDigit).head? = some '0' then none
      else some (-(natOfDigits (cs.takeWhile isAsciiDigit) : Int), cs.dropWhile isAsciiDigit) := by
  simp [number?]

theorem number?_plain (plain : cs.head? ≠ some '-') :
    number? cs =
      if cs.takeWhile isAsciiDigit = [] ∨ ((cs.takeWhile isAsciiDigit).head? = some '0' ∧
        1 < (cs.takeWhile isAsciiDigit).length) then none
      else some ((natOfDigits (cs.takeWhile isAsciiDigit) : Int), cs.dropWhile isAsciiDigit) := by
  unfold number?
  split
  rename_i negative cs' eq
  split at eq
  · simp at plain
  · cases eq
    simp

/-- Behind digits, and in front of something else, the leading digits are exactly those. -/
theorem span_digits (digits : ∀ c ∈ ds, isAsciiDigit c = true) (ends : NoDigit rest) :
    (ds ++ rest).takeWhile isAsciiDigit = ds ∧ (ds ++ rest).dropWhile isAsciiDigit = rest := by
  rw [List.takeWhile_append_of_pos digits, List.dropWhile_append_of_pos digits]
  cases rest with
  | nil => exact ⟨List.append_nil ds, rfl⟩
  | cons c rest =>
    have other : ¬ isAsciiDigit c = true := by simp [ends c rfl]
    rw [List.takeWhile_cons_of_neg other, List.dropWhile_cons_of_neg other, List.append_nil]
    exact ⟨rfl, rfl⟩

theorem span_toDigits (n : Nat) (ends : NoDigit rest) :
    (Nat.toDigits 10 n ++ rest).takeWhile isAsciiDigit = Nat.toDigits 10 n ∧
      (Nat.toDigits 10 n ++ rest).dropWhile isAsciiDigit = rest :=
  span_digits (digits_toDigits n) ends

theorem noDigit_dropWhile (cs : List Char) : NoDigit (cs.dropWhile isAsciiDigit) := by
  intro c first
  have stop := List.head?_dropWhile_not isAsciiDigit cs
  rw [Option.mem_def.mp first] at stop
  exact stop

theorem toList_numeral_ofNat (n : Nat) : (numeral (.ofNat n)).toList = Nat.toDigits 10 n :=
  Nat.toList_repr

theorem toList_numeral_negSucc (n : Nat) :
    (numeral (.negSucc n)).toList = '-' :: Nat.toDigits 10 (n + 1) := by
  rw [numeral, String.toList_append, Nat.toList_repr]
  rfl

/-- The number reader reads a number back. -/
theorem number?_numeral (n : Int) (ends : NoDigit rest) :
    number? ((numeral n).toList ++ rest) = some (n, rest) := by
  cases n with
  | ofNat n =>
    obtain ⟨taken, dropped⟩ := span_toDigits n ends
    have plain : (Nat.toDigits 10 n ++ rest).head? ≠ some '-' := by
      obtain ⟨c, cs, digits⟩ := List.exists_cons_of_ne_nil (Nat.toDigits_ne_nil (n := n))
      have digit := digits_toDigits n c (digits ▸ List.mem_cons_self)
      rw [digits]
      intro minus
      cases minus
      exact absurd digit (by decide)
    rw [toList_numeral_ofNat, number?_plain plain, taken, dropped, natOfDigits_toDigits, if_neg]
    · rfl
    · rintro (empty | ⟨leading, several⟩)
      · exact Nat.toDigits_ne_nil empty
      · rw [eq_zero_of_leading_zero leading] at several
        exact absurd several (by decide)
  | negSucc n =>
    obtain ⟨taken, dropped⟩ := span_toDigits (n + 1) ends
    rw [toList_numeral_negSucc, List.cons_append, number?_minus, taken, dropped,
      natOfDigits_toDigits, if_neg]
    · rfl
    · rintro (empty | leading)
      · exact Nat.toDigits_ne_nil empty
      · exact absurd (eq_zero_of_leading_zero leading) (by omega)

/-- Leading digits without a superfluous zero in front are the text of their value. -/
theorem toDigits_leading (nonempty : cs.takeWhile isAsciiDigit ≠ [])
    (leading : (cs.takeWhile isAsciiDigit).head? = some '0' →
      (cs.takeWhile isAsciiDigit).length = 1) :
    Nat.toDigits 10 (natOfDigits (cs.takeWhile isAsciiDigit)) = cs.takeWhile isAsciiDigit :=
  toDigits_natOfDigits nonempty (List.all_eq_true.mp List.all_takeWhile) leading

/-- What the number reader reads is the text of the number, with all digits that there are. -/
theorem text_of_number? {n : Int} (read : number? cs = some (n, rest)) :
    cs = (numeral n).toList ++ rest ∧ NoDigit rest := by
  by_cases minus : cs.head? = some '-'
  · obtain ⟨cs, rfl⟩ := List.head?_eq_some_iff.mp minus
    rw [number?_minus] at read
    split at read
    · cases read
    · rename_i proper
      cases read
      obtain ⟨nonempty, nonzero⟩ := not_or.mp proper
      have text := toDigits_leading nonempty fun zero => absurd zero nonzero
      refine ⟨?_, noDigit_dropWhile cs⟩
      -- The number is not zero, since it has no zero in front.
      cases value : natOfDigits (cs.takeWhile isAsciiDigit) with
      | zero =>
        rw [value] at text
        exact absurd (text ▸ rfl) nonzero
      | succ k =>
        rw [value] at text
        change '-' :: cs = (numeral (.negSucc k)).toList ++ _
        rw [toList_numeral_negSucc, text, List.cons_append, List.takeWhile_append_dropWhile]
  · rw [number?_plain minus] at read
    split at read
    · cases read
    · rename_i proper
      cases read
      obtain ⟨nonempty, leading⟩ := not_or.mp proper
      have text := toDigits_leading nonempty fun zero => by
        have several : ¬ 1 < (cs.takeWhile isAsciiDigit).length := fun more => leading ⟨zero, more⟩
        have positive := List.length_pos_iff.mpr nonempty
        omega
      refine ⟨?_, noDigit_dropWhile cs⟩
      rw [← Int.ofNat_eq_natCast, toList_numeral_ofNat, text, List.takeWhile_append_dropWhile]

/-- The number reader accepts the text of a number that no further digit follows. -/
theorem number?_eq_some_iff {n : Int} :
    number? cs = some (n, rest) ↔ cs = (numeral n).toList ++ rest ∧ NoDigit rest := by
  constructor
  · exact text_of_number?
  · rintro ⟨rfl, ends⟩
    exact number?_numeral n ends

end CrashDiff.Source
