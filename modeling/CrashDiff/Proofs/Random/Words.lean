import CrashDiff.Random.Twister

/-!
# Words of 32 bits

The steps that the generator makes of a word can be undone. So the words that are handed out
determine the words of state, and the renewed state determines the old one, except for the bits that
are not used.

Results:
1. `temper_inj`: the word that is handed out determines the word of state.
2. `turn_inj`: the turned word determines the word.
3. `joined_inj`: the two parts of a joined word.
-/

namespace CrashDiff.Twister

variable {x y z k c : UInt32}

/-! ## Tempering -/

/-- A word is determined by its sum with a linear image, if only zero is its own image. -/
theorem xor_inj {f : UInt32 → UInt32} (linear : ∀ x y, f (x ^^^ y) = f x ^^^ f y)
    (fixed : ∀ z, z = f z → z = 0) (same : x ^^^ f x = y ^^^ f y) : x = y := by
  refine UInt32.xor_eq_zero_iff.mp (fixed _ ?_)
  rw [linear]
  refine UInt32.xor_eq_zero_iff.mp ?_
  calc x ^^^ y ^^^ (f x ^^^ f y) = x ^^^ f x ^^^ (y ^^^ f y) := by
        rw [UInt32.xor_assoc, UInt32.xor_assoc, ← UInt32.xor_assoc y, UInt32.xor_comm y,
          UInt32.xor_assoc (f x)]
    _ = 0 := by rw [same, UInt32.xor_self]

theorem eq_zero_of_shiftRight (moves : k.toNat % 32 ≠ 0) (same : z = z >>> k) : z = 0 := by
  have values := congrArg UInt32.toNat same
  rw [UInt32.toNat_shiftRight, Nat.shiftRight_eq_div_pow] at values
  rcases Nat.eq_zero_or_pos z.toNat with zero | positive
  · exact UInt32.toNat_inj.mp zero
  · have less := Nat.div_lt_self positive (Nat.one_lt_two_pow moves)
    omega

/-- Each bit of a word that moves to the left is a bit that has moved before, or none. -/
theorem eq_zero_of_shiftLeft (moves : k.toNat % 32 ≠ 0) (same : z = (z <<< k) &&& c) : z = 0 := by
  have bits (i : Nat) : z.toBitVec.getLsbD i = false := by
    induction i using Nat.strongRecOn with
    | ind i ih =>
      rw [same, UInt32.toBitVec_and, UInt32.toBitVec_shiftLeft, BitVec.getLsbD_and,
        BitVec.shiftLeft_eq', BitVec.getLsbD_shiftLeft]
      have distance : (k.toBitVec % 32).toNat = k.toNat % 32 := BitVec.toNat_umod
      rw [distance]
      by_cases new : i < k.toNat % 32
      · rw [decide_eq_true new, Bool.not_true, Bool.and_false, Bool.false_and, Bool.false_and]
      · rw [ih (i - k.toNat % 32) (by omega), Bool.and_false, Bool.false_and]
  rw [← UInt32.toBitVec_inj]
  exact BitVec.eq_of_getLsbD_eq fun i _ => by rw [bits i, UInt32.toBitVec_zero, BitVec.getLsbD_zero]

theorem xor_and (x y c : UInt32) : (x ^^^ y) &&& c = (x &&& c) ^^^ (y &&& c) := by
  rw [← UInt32.toBitVec_inj, UInt32.toBitVec_and, UInt32.toBitVec_xor, UInt32.toBitVec_xor,
    UInt32.toBitVec_and, UInt32.toBitVec_and]
  refine BitVec.eq_of_getLsbD_eq fun i _ => ?_
  rw [BitVec.getLsbD_and, BitVec.getLsbD_xor, BitVec.getLsbD_xor, BitVec.getLsbD_and,
    BitVec.getLsbD_and, Bool.and_xor_distrib_right]

/-- The word that is handed out determines the word of state. -/
theorem temper_inj (same : temper x = temper y) : x = y := by
  have right (k : UInt32) (moves : k.toNat % 32 ≠ 0) {x y : UInt32}
      (same : x ^^^ (x >>> k) = y ^^^ (y >>> k)) : x = y :=
    xor_inj (f := (· >>> k)) (fun _ _ => UInt32.shiftRight_xor)
      (fun _ => eq_zero_of_shiftRight moves) same
  have left (k c : UInt32) (moves : k.toNat % 32 ≠ 0) {x y : UInt32}
      (same : x ^^^ ((x <<< k) &&& c) = y ^^^ ((y <<< k) &&& c)) : x = y :=
    xor_inj (f := fun x => (x <<< k) &&& c)
      (fun x y => by rw [UInt32.shiftLeft_xor, xor_and])
      (fun _ => eq_zero_of_shiftLeft moves) same
  have third := right 18 (by decide) same
  have second := left 15 _ (by decide) third
  have first := left 7 _ (by decide) second
  exact right 11 (by decide) first

/-! ## Renewing -/

/-- What a joined word of state is turned into. -/
def turn (y : UInt32) : UInt32 :=
  (y >>> 1) ^^^ (if y &&& 1 = 0 then 0 else 0x9908B0DF)

theorem toNat_half (x : UInt32) : (x >>> 1).toNat = x.toNat / 2 := by
  rw [UInt32.toNat_shiftRight, Nat.shiftRight_eq_div_pow]
  rfl

theorem even_iff : x &&& 1 = 0 ↔ x.toNat % 2 = 0 := by
  rw [← UInt32.toNat_inj, UInt32.toNat_and]
  exact iff_of_eq (congrArg (· = 0) (Nat.and_one_is_mod _))

/-- A halved word lacks the highest bit, which the mask has. -/
theorem half_ne_mask (x y : UInt32) : x >>> 1 ≠ (y >>> 1) ^^^ 0x9908B0DF := by
  intro same
  have mask : (x ^^^ y) >>> 1 = 0x9908B0DF := by
    rw [UInt32.shiftRight_xor, same, UInt32.xor_comm (y >>> 1), UInt32.xor_assoc, UInt32.xor_self,
      UInt32.xor_zero]
  have value : (x ^^^ y).toNat / 2 = 0x9908B0DF := by rw [← toNat_half, mask]; rfl
  have bound := (x ^^^ y).toNat_lt
  omega

/-- The turned word determines the word: the highest bit tells whether the word was odd. -/
theorem turn_inj (same : turn x = turn y) : x = y := by
  have halves (parity : x.toNat % 2 = y.toNat % 2) (same : x >>> 1 = y >>> 1) : x = y := by
    have values := congrArg UInt32.toNat same
    rw [toNat_half, toNat_half] at values
    exact UInt32.toNat_inj.mp (by omega)
  unfold turn at same
  by_cases even : x &&& 1 = 0
  · by_cases even' : y &&& 1 = 0
    · rw [if_pos even, if_pos even', UInt32.xor_left_inj] at same
      exact halves ((even_iff.mp even).trans (even_iff.mp even').symm) same
    · rw [if_pos even, if_neg even', UInt32.xor_zero] at same
      exact absurd same (half_ne_mask x y)
  · by_cases even' : y &&& 1 = 0
    · rw [if_neg even, if_pos even', UInt32.xor_zero] at same
      exact absurd same.symm (half_ne_mask y x)
    · rw [if_neg even, if_neg even', UInt32.xor_left_inj] at same
      rw [even_iff] at even even'
      exact halves (by omega) same

/-- The highest bit of a word. -/
def high (x : UInt32) : UInt32 :=
  x &&& 0x80000000

/-- The other bits of a word. -/
def low (x : UInt32) : UInt32 :=
  x &&& 0x7FFFFFFF

theorem or_and (x y c : UInt32) : (x ||| y) &&& c = (x &&& c) ||| (y &&& c) := by
  rw [← UInt32.toBitVec_inj]
  exact BitVec.and_or_distrib_right

theorem and_or (c x y : UInt32) : c &&& (x ||| y) = (c &&& x) ||| (c &&& y) := by
  rw [← UInt32.toBitVec_inj]
  exact BitVec.and_or_distrib_left

theorem high_or_low (x : UInt32) : high x ||| low x = x := by
  rw [high, low, ← and_or]
  exact UInt32.and_neg_one

theorem eq_of_parts (highs : high x = high y) (lows : low x = low y) : x = y := by
  rw [← high_or_low x, highs, lows, high_or_low]

/-- The parts of a joined word are the highest bit of the one and the other bits of the other. -/
theorem joined_inj {x' y' : UInt32} (same : high x ||| low y = high x' ||| low y') :
    high x = high x' ∧ low y = low y' := by
  have first (x y : UInt32) : (high x ||| low y) &&& 0x80000000 = high x := by
    rw [or_and, high, low, UInt32.and_assoc, UInt32.and_assoc]
    show x &&& 0x80000000 ||| y &&& 0 = x &&& 0x80000000
    rw [UInt32.and_zero, UInt32.or_zero]
  have second (x y : UInt32) : (high x ||| low y) &&& 0x7FFFFFFF = low y := by
    rw [or_and, high, low, UInt32.and_assoc, UInt32.and_assoc]
    show x &&& 0 ||| y &&& 0x7FFFFFFF = y &&& 0x7FFFFFFF
    rw [UInt32.and_zero, UInt32.zero_or]
  exact ⟨by rw [← first x y, same, first], by rw [← second x y, same, second]⟩

end CrashDiff.Twister
